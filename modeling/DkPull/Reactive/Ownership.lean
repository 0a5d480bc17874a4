/-!
# Ownership

Reference-counted objects form a graph: an edge leads from the holder of a
strong reference to the object it refers to.  Weak references are no edges.
While the strong references form no cycle through it, an object lives exactly
as long as a chain of them leads to it from a root, that is, from something
that exists on its own.
-/

namespace DkPull.Reactive

universe u

structure Ownership (Node : Type u) where
  root : Node → Prop
  owns : Node → Node → Prop

namespace Ownership

variable {Node : Type u} {graph : Ownership Node} {node : Node}

/-- A chain of strong references leads from a root to the object. -/
inductive Alive (graph : Ownership Node) : Node → Prop where
  | root {node : Node} (stands : graph.root node) : Alive graph node
  | owned {owner node : Node}
      (alive : Alive graph owner) (owns : graph.owns owner node) :
      Alive graph node

theorem alive_iff :
    graph.Alive node ↔
      graph.root node ∨ ∃ owner, graph.Alive owner ∧ graph.owns owner node := by
  constructor
  · intro alive
    cases alive with
    | root stands => exact Or.inl stands
    | owned alive owns => exact Or.inr ⟨_, alive, owns⟩
  · rintro (stands | ⟨owner, alive, owns⟩)
    · exact .root stands
    · exact .owned alive owns

theorem alive_of_root
    {owner : Node} (stands : graph.root owner)
    (owns : graph.owns owner node) : graph.Alive node :=
  .owned (.root stands) owns

/-- An object that is no root is alive exactly if one of its holders is. -/
theorem alive_iff_of_not_root
    (dependent : ¬ graph.root node) :
    graph.Alive node ↔
      ∃ owner, graph.Alive owner ∧ graph.owns owner node := by
  rw [alive_iff, or_iff_right dependent]

end Ownership

end DkPull.Reactive
