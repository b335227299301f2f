import Mathlib.Data.Nat.Find
import Std.Data.String.ToNat
import ApiAtlas.Model.Registry
import ApiAtlas.Proofs.Model.Sameness
import ApiAtlas.Proofs.Sorted

/-! # The registry of models

A model is stored under a free name, or shared with an equal one. The search for its name passes over the names
that different models have; there are always names left, so it ends.
-/

namespace ApiAtlas

namespace Model

namespace Registry

variable {models : Namespace} {name : String} {body : Body} {facets : Schema.Facets}

theorem candidate_injective {first second : Nat} (positive : 1 ≤ first) (positive' : 1 ≤ second)
    (h : candidate name first = candidate name second) : first = second := by
  have long : ∀ k : Nat, name ++ toString k ≠ name := by
    intro k same
    have length := congrArg String.length same
    rw [String.length_append] at length
    have digits : 0 < (toString k).length := Nat.length_repr_pos
    omega
  unfold candidate at h
  split at h <;> split at h
  · omega
  · exact absurd h.symm (long _)
  · exact absurd h (long _)
  · exact Nat.repr_injective (String.append_right_inj name |>.mp h)

/-- A different model has the name. -/
def OwnedByOther (models : Namespace) (body : Body) (facets : Schema.Facets) (attempt : String) : Prop :=
  ∃ present, SortedTable.get? attempt models = some present ∧
    (present.body.same body && present.facets.same facets) = false

/-- Among more candidates than there are models, one is not taken by a different model. -/
theorem exists_not_ownedByOther (models : Namespace) (name : String) (body : Body) (facets : Schema.Facets) :
    ∃ k, 1 ≤ k ∧ k ≤ models.length + 1 ∧ ¬ OwnedByOther models body facets (candidate name k) := by
  by_contra taken
  push Not at taken
  -- Otherwise all these names are keys, which are fewer.
  have distinct : ((List.range' 1 (models.length + 1)).map (candidate name)).Nodup := by
    refine List.Nodup.map_on ?_ List.nodup_range'
    intro first member second member' same
    rw [List.mem_range'_1] at member member'
    exact candidate_injective member.1 member'.1 same
  have listed : (List.range' 1 (models.length + 1)).map (candidate name) ⊆ SortedTable.keys models := by
    intro attempt member
    obtain ⟨j, within, rfl⟩ := List.mem_map.mp member
    rw [List.mem_range'_1] at within
    obtain ⟨present, there, _⟩ := taken j within.1 (by omega)
    exact SortedTable.mem_keys_of_get? there
  have few := (distinct.subperm listed).length_le
  rw [List.length_map, List.length_range', SortedTable.keys, List.length_map] at few
  omega

/-- How a model is placed as the `k`-th candidate: the name is free, or the model is there already. -/
inductive Placed (models : Namespace) (name : String) (body : Body) (facets : Schema.Facets) (k : Nat) :
    Namespace × String → Prop where
  | fresh : SortedTable.get? (candidate name k) models = none →
    Placed models name body facets k
      (SortedTable.put (candidate name k) ⟨candidate name k, body, facets⟩ models, candidate name k)
  | shared {present : Definition} : SortedTable.get? (candidate name k) models = some present →
    present.body.same body → present.facets.same facets → Placed models name body facets k (models, candidate name k)

variable {fuel k skipped : Nat}

theorem place_of_ownedByOther (owned : OwnedByOther models body facets (candidate name k)) :
    place models name body facets (fuel + 1) k = place models name body facets fuel (k + 1) := by
  obtain ⟨present, there, different⟩ := owned
  rw [place]
  simp only [there, different]
  rfl

theorem placed_of_not_ownedByOther (open_ : ¬ OwnedByOther models body facets (candidate name k)) :
    Placed models name body facets k (place models name body facets (fuel + 1) k) := by
  rw [place]
  cases there : SortedTable.get? (candidate name k) models with
  | none => exact .fresh there
  | some present =>
      cases same : present.body.same body && present.facets.same facets with
      | false => exact absurd ⟨present, there, same⟩ open_
      | true =>
          simp only [if_true, same]
          rw [Bool.and_eq_true] at same
          exact .shared there same.1 same.2

/-- The search passes over the candidates that different models own. -/
theorem place_skip (owned : ∀ j, k ≤ j → j < k + skipped → OwnedByOther models body facets (candidate name j)) :
    place models name body facets (fuel + skipped) k = place models name body facets fuel (k + skipped) := by
  induction skipped generalizing k with
  | zero => rfl
  | succ skipped ih =>
      rw [← Nat.add_assoc, place_of_ownedByOther (owned k le_rfl (by omega)),
        ih fun j from_ below => owned j (by omega) (by omega), Nat.add_right_comm, Nat.add_assoc]

/-- The search ends at the first candidate that no different model owns, within more steps than there are models. -/
theorem placed_place (models : Namespace) (name : String) (body : Body) (facets : Schema.Facets) :
    ∃ k, 1 ≤ k ∧ (∀ j, 1 ≤ j → j < k → OwnedByOther models body facets (candidate name j)) ∧
      ∀ fuel, models.length < fuel → Placed models name body facets k (place models name body facets fuel 1) := by
  classical
  have ends := exists_not_ownedByOther models name body facets
  obtain ⟨positive, near, open_⟩ := Nat.find_spec ends
  have earlier : ∀ j, 1 ≤ j → j < Nat.find ends → OwnedByOther models body facets (candidate name j) := by
    intro j positive below
    by_contra other
    exact Nat.find_min ends below ⟨positive, by omega, other⟩
  refine ⟨Nat.find ends, positive, earlier, fun fuel enough => ?_⟩
  obtain ⟨spare, rfl⟩ : ∃ spare, fuel = spare + 1 + (Nat.find ends - 1) := ⟨fuel - Nat.find ends, by omega⟩
  have next : 1 + (Nat.find ends - 1) = Nat.find ends := by omega
  rw [place_skip fun j from_ below => earlier j from_ (by omega), next]
  exact placed_of_not_ownedByOther open_

end Registry

theorem Modelling.run_register {models after : Namespace} {components : Table String} {name placed : String}
    {body : Body} {facets : Schema.Facets}
    (settles : Registry.place models name body facets (models.length + 1) 1 = (after, placed)) :
    (register name body facets).run ⟨models, components⟩ = (placed, ⟨after, components⟩) := by
  have run : (register name body facets).run ⟨models, components⟩ =
      ((Registry.place models name body facets (models.length + 1) 1).2,
        ⟨(Registry.place models name body facets (models.length + 1) 1).1, components⟩) := rfl
  rw [run, settles]

section Components

variable {registry between : Registry} {key placed : String} {node : Schema.Node} {body : String → Modelling Body}

theorem Modelling.run_componentModel_of_known (known : Table.get? key registry.components = some placed) :
    (componentModel key node body).run registry = (placed, registry) := by
  simp only [componentModel, StateT.run_bind, StateT.run_get, pure_bind, known, StateT.run_pure]
  rfl

theorem Modelling.run_componentModel_of_unknown (unknown : Table.get? key registry.components = none)
    (run : (body (modelName node (Naming.camelCase key)) >>= fun body =>
      register (modelName node (Naming.camelCase key)) body node.facets).run registry = (placed, between)) :
    (componentModel key node body).run registry =
      (placed, { between with components := Table.put key placed between.components }) := by
  simp only [componentModel, StateT.run_bind, StateT.run_get, pure_bind, unknown]
  rw [StateT.run_bind] at run
  rw [← bind_assoc, run]
  rfl

end Components

end Model

end ApiAtlas
