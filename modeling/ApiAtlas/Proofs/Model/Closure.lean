import Mathlib.Logic.Relation
import Mathlib.Tactic.Tauto
import ApiAtlas.Model.Rendering
import ApiAtlas.Proofs.Model.Sameness
import ApiAtlas.Proofs.Sorted

/-! # The models that a model reaches

The closure of a model consists of exactly the models that mentions lead to. The search for it ends before
its steps run out: each model is visited once, and each visit leaves no more pending than it was counted
for.
-/

namespace ApiAtlas

namespace Model

namespace Namespace

open Relation (ReflTransGen)

variable {models : Namespace} {name : String} {model : Definition} {pending seen : List String} {fuel : Nat}

/-- The first model mentions the second one. -/
def Mentions (models : Namespace) (first second : String) : Prop :=
  ∃ model, SortedTable.get? first models = some model ∧ second ∈ model.body.mentions

/-- What a visit makes pending. -/
def next (models : Namespace) (name : String) : List String :=
  match SortedTable.get? name models with
  | some model => model.dependencies
  | none => []

theorem mem_next {other : String} : other ∈ models.next name ↔ models.Mentions name other := by
  unfold next Mentions
  cases SortedTable.get? name models with
  | none => simp
  | some model => simp [Definition.dependencies, SortedSet.mem_ofList, Body.mentions]

/-- The steps that are left for models that were not seen. -/
def weight (models : Namespace) (seen : List String) : Nat :=
  models.foldr (fun entry steps => (if entry.1 ∈ seen then 0 else entry.2.dependencies.length + 2) + steps) 0

theorem weight_cons {entry : String × Definition} : weight (entry :: models) seen =
    (if entry.1 ∈ seen then 0 else entry.2.dependencies.length + 2) + weight models seen := rfl

theorem weight_nil : models.weight [] + 2 = models.reachBound := by
  induction models with
  | nil => rfl
  | cons entry models ih =>
      have bound : reachBound (entry :: models) = entry.2.dependencies.length + 2 + reachBound models := rfl
      rw [weight_cons, if_neg List.not_mem_nil, bound, ← ih, Nat.add_assoc]

theorem weight_visit_le : models.weight (name :: seen) ≤ models.weight seen := by
  induction models with
  | nil => exact Nat.le_refl _
  | cons entry models ih =>
      rw [weight_cons, weight_cons]
      by_cases visited : entry.1 ∈ seen
      · rw [if_pos visited, if_pos (List.mem_cons_of_mem _ visited)]
        omega
      · rw [if_neg visited]
        split <;> omega

/-- A visit uses up what was counted for it. -/
theorem weight_visit (fresh : name ∉ seen) :
    models.weight (name :: seen) + (models.next name).length ≤ models.weight seen := by
  unfold next
  split
  · rename_i model there
    induction models with
    | nil => cases there
    | cons entry models ih =>
        rw [weight_cons, weight_cons]
        by_cases same : entry.1 = name
        · rw [SortedTable.get?, if_pos same, Option.some.injEq] at there
          subst there
          have rest : weight models (name :: seen) ≤ weight models seen := weight_visit_le
          rw [if_pos (same ▸ List.mem_cons_self), if_neg (same ▸ fresh)]
          omega
        · rw [SortedTable.get?, if_neg same] at there
          have rest := ih there
          have alike : entry.1 ∈ name :: seen ↔ entry.1 ∈ seen := by simp [same]
          simp only [alike]
          omega
  · exact weight_visit_le

/-- What the models seen so far mention is seen or pending. -/
def Explored (models : Namespace) (pending seen : List String) : Prop :=
  ∀ first ∈ seen, ∀ second, models.Mentions first second → second ∈ seen ∨ second ∈ pending

theorem reach_visited (visited : name ∈ seen) :
    models.reach (fuel + 1) (name :: pending) seen = models.reach fuel pending seen := if_pos visited

theorem reach_fresh (fresh : name ∉ seen) : models.reach (fuel + 1) (name :: pending) seen =
    models.reach fuel (models.next name ++ pending) (name :: seen) := if_neg fresh

theorem Explored.visit (explored : models.Explored (name :: pending) seen) :
    models.Explored (models.next name ++ pending) (name :: seen) := by
  intro first member second mentions
  rw [List.mem_cons, List.mem_append]
  rcases List.mem_cons.mp member with rfl | member
  · exact .inr (.inl (mem_next.mpr mentions))
  · have known := explored first member second mentions
    rw [List.mem_cons] at known
    tauto

/-- What is found contains where the search started, and is closed under mentions. -/
theorem reach_complete (enough : pending.length + models.weight seen < fuel)
    (explored : models.Explored pending seen) :
    (∀ name, name ∈ seen ∨ name ∈ pending → name ∈ models.reach fuel pending seen) ∧
      ∀ first ∈ models.reach fuel pending seen, ∀ second, models.Mentions first second →
        second ∈ models.reach fuel pending seen := by
  -- A name that was seen is dropped and another one is visited; either way less is left that was counted.
  induction fuel generalizing pending seen with
  | zero => omega
  | succ fuel ih =>
      cases pending with
      | nil =>
          rw [reach]
          exact ⟨fun _ there => there.resolve_right List.not_mem_nil,
            fun first member second mentions => (explored first member second mentions).resolve_right List.not_mem_nil⟩
      | cons name pending =>
          rw [List.length_cons] at enough
          by_cases visited : name ∈ seen
          · rw [reach_visited visited]
            have alike : ∀ other, other ∈ seen ∨ other ∈ name :: pending ↔ other ∈ seen ∨ other ∈ pending := by
              intro other
              rw [List.mem_cons]
              exact ⟨fun there => by rcases there with there | rfl | there <;> tauto, by tauto⟩
            simp only [alike]
            exact ih (by omega) fun first member second mentions =>
              (alike second).mp (explored first member second mentions)
          · rw [reach_fresh visited]
            have used : models.weight (name :: seen) + (models.next name).length ≤ models.weight seen :=
              weight_visit visited
            obtain ⟨contains, closed⟩ := ih (by rw [List.length_append]; omega) explored.visit
            refine ⟨fun other there => contains other ?_, closed⟩
            rw [List.mem_cons, List.mem_append]
            rw [List.mem_cons] at there
            tauto

/-- Nothing is found but what mentions lead to. -/
theorem reach_sound {P : String → Prop} (start : ∀ name, name ∈ seen ∨ name ∈ pending → P name)
    (step : ∀ first second, P first → models.Mentions first second → P second) :
    ∀ name ∈ models.reach fuel pending seen, P name := by
  induction fuel generalizing pending seen with
  | zero => exact fun name member => start name (.inl member)
  | succ fuel ih =>
      cases pending with
      | nil => exact fun name member => start name (.inl member)
      | cons name pending =>
          by_cases visited : name ∈ seen
          · rw [reach_visited visited]
            exact ih fun other there => start other (there.imp_right (List.mem_cons_of_mem _))
          · rw [reach_fresh visited]
            have here : P name := start name (.inr List.mem_cons_self)
            refine ih fun other there => ?_
            rw [List.mem_cons, List.mem_append] at there
            rcases there with (rfl | there) | there | there
            · exact here
            · exact start other (.inl there)
            · exact step name other here (mem_next.mp there)
            · exact start other (.inr (List.mem_cons_of_mem _ there))

/-- The closure of a model is what mentions lead to. -/
theorem mem_closure {other : String} : other ∈ models.closure name ↔ ReflTransGen models.Mentions name other := by
  rw [closure, SortedSet.mem_ofList]
  constructor
  · refine reach_sound (fun other there => ?_) (fun first second path mentions => path.tail mentions) other
    obtain rfl := List.mem_singleton.mp (there.resolve_left List.not_mem_nil)
    exact .refl
  · have enough : [name].length + models.weight [] < models.reachBound := by
      rw [← weight_nil, List.length_singleton]
      omega
    obtain ⟨contains, closed⟩ := reach_complete enough nofun
    intro path
    induction path with
    | refl => exact contains name (.inr (List.mem_singleton_self _))
    | tail _ mentions ih => exact closed _ ih _ mentions

end Namespace

end Model

end ApiAtlas
