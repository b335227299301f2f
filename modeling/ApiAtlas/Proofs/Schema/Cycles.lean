import ApiAtlas.Proofs.Schema.Calls
import ApiAtlas.Proofs.Schema.Tree

/-! # Cycles of references

A resolver reports cycles that are there, and it reports every one: from a component that resolves
no cycle is reached, neither in the document nor on a path of its tree.
-/

namespace ApiAtlas

namespace Schema

open Relation (ReflTransGen TransGen)

/-- The references on a path from a node inwards, the outermost first. -/
inductive Node.Trail : Node → List String → Prop where
  | stop (node : Node) : Trail node []
  | through {name : String} {resolved : Node} {facets : Facets} {names : List String} :
    Trail resolved names → Trail ⟨.reference name resolved, facets⟩ (name :: names)
  | inside {node part : Node} {names : List String} :
    node.referenceTarget? = none → part ∈ node.parts → Trail part names → Trail node names

variable {components : Table Json} {name : String} {node : Node}

/-- Where every path of references ends there is no cycle. -/
theorem not_cycle_of_acc (ends : Acc (fun second first => Leads components first second) name)
    {back : String} (path : ReflTransGen (Leads components) name back) :
    ¬ TransGen (Leads components) back back := by
  induction ends generalizing back with
  | intro name _ ih =>
      intro cycle
      rcases path.cases_head with rfl | ⟨next, leads, path⟩
      · obtain ⟨next, leads, path⟩ := TransGen.head'_iff.mp cycle
        exact ih next leads path cycle
      · exact ih next leads path cycle

namespace IsComponent

theorem unique {other : Node} (h : IsComponent components name node)
    (h' : IsComponent components name other) : node = other := by
  obtain ⟨schema, inside, present, resolves, rfl⟩ := h
  obtain ⟨_, _, present', resolves', rfl⟩ := h'
  obtain rfl := Option.some.inj (present.symm.trans present')
  rw [resolves.unique resolves']

theorem acc (h : IsComponent components name node) :
    Acc (fun second first => Leads components first second) name := by
  obtain ⟨schema, inside, present, resolves, rfl⟩ := h
  exact .intro name fun second leads => resolves.acc_of_refers ((Leads.of_component present).mp leads)

theorem canonical (h : IsComponent components name node) :
    node.Everywhere fun node => Kind.Canonical components node.kind := by
  obtain ⟨schema, inside, _, resolves, rfl⟩ := h
  have whole := resolves.canonical
  refine .intro whole.here fun part member => whole.inside ?_
  rwa [Node.titled, Node.parts_withFacets] at member

end IsComponent

/-- On every path of a tree whose references are canonical, each reference stands for a smaller tree
than the node it is met from. -/
theorem Node.Trail.smaller {names : List String} (trail : node.Trail names)
    (canonical : node.Everywhere fun node => Kind.Canonical components node.kind) :
    ∀ target ∈ names, ∃ inside, IsComponent components target inside ∧ sizeOf inside < sizeOf node := by
  induction trail with
  | stop => exact nofun
  | @through name resolved facets names _ ih =>
      have part : resolved ∈ Node.parts ⟨.reference name resolved, facets⟩ := List.mem_singleton_self _
      have smaller := Node.sizeOf_lt_of_mem_parts part
      intro target member
      rcases List.mem_cons.mp member with rfl | member
      · exact ⟨resolved, canonical.here target resolved rfl, smaller⟩
      · obtain ⟨inside, found, less⟩ := ih (canonical.inside part) target member
        exact ⟨inside, found, less.trans smaller⟩
  | inside _ part _ ih =>
      intro target member
      obtain ⟨inside, found, less⟩ := ih (canonical.inside part) target member
      exact ⟨inside, found, less.trans (sizeOf_lt_of_mem_parts part)⟩

theorem Node.Trail.nodup {names : List String} (trail : node.Trail names)
    (canonical : node.Everywhere fun node => Kind.Canonical components node.kind) : names.Nodup := by
  induction trail with
  | stop => exact .nil
  | @through name resolved facets names trail ih =>
      have inside := canonical.inside (List.mem_singleton_self resolved)
      refine List.nodup_cons.mpr ⟨fun member => ?_, ih inside⟩
      obtain ⟨other, found, smaller⟩ := trail.smaller inside name member
      obtain rfl := found.unique (canonical.here name resolved rfl)
      exact lt_irrefl _ smaller
  | inside _ part _ ih => exact ih (canonical.inside part)

/-- No component repeats on a path of the tree that a component resolves to, itself included. -/
theorem IsComponent.nodup_trail {names : List String} (h : IsComponent components name node)
    (trail : node.Trail names) : (name :: names).Nodup := by
  refine List.nodup_cons.mpr ⟨fun member => ?_, trail.nodup h.canonical⟩
  obtain ⟨other, found, smaller⟩ := trail.smaller h.canonical name member
  obtain rfl := found.unique h
  exact lt_irrefl _ smaller

/-- In every session of a resolver, resolving a component ends, reports only cycles that are there,
and succeeds only where no cycle is reached. -/
theorem resolveComponent_cycles (components : Table Json) (calls : List Call) (name : String) :
    let outcome := (Session.resolveComponent components name).outcome (Session.after components calls)
    (∀ beyond levels, Session.levels ≤ levels →
      Resolving.unrolled components beyond levels = Session.resolve components) ∧
    (∀ chain, outcome.1 = .error (.circular chain) → IsCycle components chain) ∧
    ∀ node, outcome.1 = .ok node →
      (∀ back, ReflTransGen (Leads components) name back → ¬ TransGen (Leads components) back back) ∧
      ∀ names, node.Trail names → (name :: names).Nodup := by
  intro outcome
  have idle : (Session.after components calls).Idle components := Session.idle_after calls
  have answers := idle.resolveComponent name
  refine ⟨fun _ _ enough => Resolving.unrolled_eq_resolve enough, fun chain => answers.cycle, ?_⟩
  intro node same
  have found := answers.right same
  exact ⟨fun back path => not_cycle_of_acc found.acc path, fun names trail => found.nodup_trail trail⟩

end Schema

end ApiAtlas
