import Mathlib.Data.List.Basic
import Mathlib.Data.List.Induction
import ApiAtlas.Proofs.Table
import ApiAtlas.Route.Binding

/-! # Bindings that are made one after another

Of the bindings for one target the last one counts, and the routes with a binding of their own are listed in the
order in which they first got one.
-/

namespace ApiAtlas

section FirstOccurrences

variable {α : Type} [BEq α] [LawfulBEq α]

theorem pairwise_eraseDups (list : List α) :
    list.eraseDups.Pairwise fun first second => list.idxOf first < list.idxOf second := by
  induction list using List.reverseRecOn with
  | nil => exact .nil
  | append_singleton list item ih =>
      have kept : list.eraseDups.Pairwise fun first second =>
          (list ++ [item]).idxOf first < (list ++ [item]).idxOf second := by
        refine ih.imp_of_mem fun {first second} member member' less => ?_
        rw [List.mem_eraseDups] at member member'
        rwa [List.idxOf_append_of_mem member, List.idxOf_append_of_mem member']
      rw [eraseDups_concat]
      split
      · exact kept
      · rename_i fresh
        refine List.pairwise_append.mpr ⟨kept, List.pairwise_singleton _ _, fun first member second same => ?_⟩
        obtain rfl := List.mem_singleton.mp same
        rw [List.mem_eraseDups] at member
        rw [List.idxOf_append_of_mem member, List.idxOf_append_of_notMem fresh]
        have within := List.idxOf_lt_length_of_mem member
        omega

end FirstOccurrences

namespace Route

/-- What a binding is for: all routes of a method, or a single route. -/
inductive Target where
  | general (method : Method)
  | single (path : String) (method : Method)
deriving DecidableEq

/-- The route of a target that is a single one. -/
def Target.route? : Target → Option (String × Method)
  | .general _ => none
  | .single path method => some (path, method)

/-- A binding that is made for a target. -/
structure Assignment where
  target : Target
  binding : Binding

/-- This binding is the last one that is made for the target. -/
def LastFor (target : Target) (binding : Binding) (assignments : List Assignment) : Prop :=
  ∃ before after, assignments = before ++ ⟨target, binding⟩ :: after ∧ ∀ later ∈ after, later.target ≠ target

theorem LastFor.mem {target : Target} {binding : Binding} {assignments : List Assignment}
    (last : LastFor target binding assignments) : ⟨target, binding⟩ ∈ assignments := by
  obtain ⟨before, after, rfl, _⟩ := last
  exact List.mem_append_right _ List.mem_cons_self

/-- The single routes for which bindings are made, as often as they are made. -/
def boundRoutes (assignments : List Assignment) : List (String × Method) :=
  assignments.filterMap (·.target.route?)

namespace Bindings

/-- Makes a binding. -/
def assign (bindings : Bindings) (assignment : Assignment) : Bindings :=
  match assignment.target with
  | .general method => bindings.setDefault method assignment.binding
  | .single path method => bindings.setOverride path method assignment.binding

/-- What is bound after bindings are made one after another. -/
def ofAssignments (assignments : List Assignment) : Bindings := assignments.foldl assign {}

/-- The binding for a target. -/
def get? (bindings : Bindings) : Target → Option Binding
  | .general method => bindings.default? method
  | .single path method => bindings.override? path method

/-- The bindings are the last ones that were made, and the routes stand in the order of their first ones. -/
structure Records (bindings : Bindings) (assignments : List Assignment) : Prop where
  default_iff (method : Method) (binding : Binding) :
    bindings.default? method = some binding ↔ LastFor (.general method) binding assignments
  default_none_iff (method : Method) :
    bindings.default? method = none ↔ ∀ assignment ∈ assignments, assignment.target ≠ .general method
  override_iff (path : String) (method : Method) (binding : Binding) :
    bindings.override? path method = some binding ↔ LastFor (.single path method) binding assignments
  override_none_iff (path : String) (method : Method) :
    bindings.override? path method = none ↔ ∀ assignment ∈ assignments, assignment.target ≠ .single path method
  mem_overridden_iff (route : String × Method) : route ∈ bindings.overridden ↔ route ∈ boundRoutes assignments
  nodup_overridden : bindings.overridden.Nodup
  ordered : bindings.overridden.Pairwise fun first second =>
    (boundRoutes assignments).idxOf first < (boundRoutes assignments).idxOf second

variable {bindings others : Bindings} {assignment : Assignment} {assignments : List Assignment} {target : Target}
  {binding : Binding} {route : String × Method} {overrides : List ((String × Method) × Binding)}

theorem find?_putOverride {other : String × Method} :
    ((putOverride route binding overrides).find? (·.1 == other)).map (·.2) =
      if route = other then some binding else (overrides.find? (·.1 == other)).map (·.2) := by
  induction overrides with
  | nil => by_cases same : route = other <;> simp [putOverride, same]
  | cons first overrides ih =>
      rw [putOverride]
      by_cases here : first.1 = route
      · rw [if_pos here]
        by_cases same : route = other
        · simp [same]
        · simp [same, here]
      · rw [if_neg here]
        by_cases there : first.1 = other
        · have different : route ≠ other := fun same => here (there.trans same.symm)
          simp [there, different]
        · simp [there, ih]

theorem keys_putOverride : (putOverride route binding overrides).map (·.1) =
    if route ∈ overrides.map (·.1) then overrides.map (·.1) else overrides.map (·.1) ++ [route] := by
  induction overrides with
  | nil => rfl
  | cons first overrides ih =>
      rw [putOverride]
      by_cases here : first.1 = route
      · simp [here]
      · simp only [here, if_false, List.map_cons, ih, List.mem_cons, Ne.symm here, false_or]
        split <;> rfl

theorem get?_assign : (bindings.assign assignment).get? target =
    if assignment.target = target then some assignment.binding else bindings.get? target := by
  obtain ⟨made, binding⟩ := assignment
  cases made with
  | general method =>
      cases target with
      | general other => simp [assign, setDefault, get?, default?, Table.get?_put, eq_comm]
      | single => rfl
  | single path method =>
      cases target with
      | general => rfl
      | single other others => simp [assign, setOverride, get?, override?, find?_putOverride]

theorem overridden_assign : (bindings.assign assignment).overridden =
    match assignment.target.route? with
    | none => bindings.overridden
    | some route => if route ∈ bindings.overridden then bindings.overridden else bindings.overridden ++ [route] := by
  obtain ⟨made, binding⟩ := assignment
  cases made with
  | general method => rfl
  | single path method => exact keys_putOverride

theorem ofAssignments_concat :
    ofAssignments (assignments ++ [assignment]) = (ofAssignments assignments).assign assignment :=
  List.foldl_concat ..

theorem lastFor_nil : ¬ LastFor target binding [] := by
  rintro ⟨before, after, split, _⟩
  simp at split

theorem lastFor_concat : LastFor target binding (assignments ++ [assignment]) ↔
    if assignment.target = target then assignment.binding = binding else LastFor target binding assignments := by
  constructor
  · rintro ⟨before, after, split, last⟩
    rcases List.eq_nil_or_concat after with rfl | ⟨after, final, rfl⟩
    · obtain ⟨rfl, same⟩ := List.append_inj' split rfl
      cases same
      simp
    · rw [List.concat_eq_append, ← List.cons_append, ← List.append_assoc] at split
      obtain ⟨rfl, same⟩ := List.append_inj' split rfl
      cases same
      have different : assignment.target ≠ target := last assignment (by simp)
      rw [if_neg different]
      exact ⟨before, after, rfl, fun later member => last later (by simp [member])⟩
  · split
    · rename_i same
      rintro rfl
      exact ⟨assignments, [], by rw [← same], List.forall_mem_nil _⟩
    · rename_i different
      rintro ⟨before, after, rfl, last⟩
      refine ⟨before, after ++ [assignment], by simp, fun later member => ?_⟩
      rcases List.mem_append.mp member with member | member
      · exact last later member
      · rwa [List.mem_singleton.mp member]

/-- What is bound for a target is what was bound for it last. -/
theorem get?_ofAssignments (target : Target) :
    (ofAssignments assignments).get? target = some binding ↔ LastFor target binding assignments := by
  induction assignments using List.reverseRecOn with
  | nil =>
      refine iff_of_false ?_ lastFor_nil
      cases target <;> exact nofun
  | append_singleton assignments assignment ih =>
      rw [ofAssignments_concat, get?_assign, lastFor_concat, ← ih]
      split <;> simp

theorem get?_ofAssignments_eq_none (target : Target) : (ofAssignments assignments).get? target = none ↔
    ∀ assignment ∈ assignments, assignment.target ≠ target := by
  induction assignments using List.reverseRecOn with
  | nil => cases target <;> exact iff_of_true rfl (List.forall_mem_nil _)
  | append_singleton assignments assignment ih =>
      rw [ofAssignments_concat, get?_assign, List.forall_mem_append, List.forall_mem_singleton, ← ih]
      split <;> simp_all

theorem overridden_ofAssignments : (ofAssignments assignments).overridden = (boundRoutes assignments).eraseDups := by
  induction assignments using List.reverseRecOn with
  | nil => rfl
  | append_singleton assignments assignment ih =>
      have routes : boundRoutes (assignments ++ [assignment]) =
          boundRoutes assignments ++ assignment.target.route?.toList := by
        rw [boundRoutes, boundRoutes, List.filterMap_append]
        cases single : assignment.target.route? <;> simp [single]
      rw [ofAssignments_concat, overridden_assign, ih, routes]
      cases assignment.target.route? with
      | none => simp
      | some route => simp [eraseDups_concat]

theorem records_ofAssignments (assignments : List Assignment) : (ofAssignments assignments).Records assignments where
  default_iff method _ := get?_ofAssignments (.general method)
  default_none_iff method := get?_ofAssignments_eq_none (.general method)
  override_iff path method _ := get?_ofAssignments (.single path method)
  override_none_iff path method := get?_ofAssignments_eq_none (.single path method)
  mem_overridden_iff _ := by rw [overridden_ofAssignments, List.mem_eraseDups]
  nodup_overridden := by
    rw [overridden_ofAssignments]
    refine (pairwise_eraseDups _).imp fun less same => ?_
    rw [same] at less
    exact Nat.lt_irrefl _ less
  ordered := by
    rw [overridden_ofAssignments]
    exact pairwise_eraseDups _

end Bindings

end Route

end ApiAtlas
