import DkPull.Libuv.Heap
import Mathlib.Logic.Equiv.Basic
import Mathlib.Tactic.SplitIfs

/-!
# The pointers of a heap

The nodes of a heap are numbered row by row from the root, which has the number
one.  Then all pointers are determined by the sequence of nodes: the children
of number `i` are the numbers `2 * i` and `2 * i + 1`.  Exchanging a parent with
a child by their pointers is exchanging them in the sequence.
-/

namespace DkPull.Libuv

namespace Heap

variable {Node : Type}

def nodeAt (items : Nat → Node) (count i : Nat) : Option Node :=
  if 1 ≤ i ∧ i ≤ count then some (items i) else none

/-- The pointers of the heap are those of the complete tree with the given
nodes. -/
structure Layout
    (heap : Heap Node) (items : Nat → Node) (count : Nat) : Prop where
  min : heap.min = nodeAt items count 1
  nelts : heap.nelts.toNat = count
  nodes :
    ∀ i, 1 ≤ i → i ≤ count →
      heap.nodes (items i) =
        { left := nodeAt items count (2 * i)
          right := nodeAt items count (2 * i + 1)
          parent := nodeAt items count (i / 2) }
  injective :
    ∀ i j, 1 ≤ i → i ≤ count → 1 ≤ j → j ≤ count →
      items i = items j → i = j

variable {heap : Heap Node} {items : Nat → Node} {count : Nat}

theorem Layout.items_eq_iff
    (layout : heap.Layout items count) {i j : Nat}
    (first : 1 ≤ i ∧ i ≤ count) (second : 1 ≤ j ∧ j ≤ count) :
    items i = items j ↔ i = j := by
  constructor
  · exact layout.injective i j first.1 first.2 second.1 second.2
  · rintro rfl
    rfl

theorem Layout.nodeAt_eq_some_iff
    (layout : heap.Layout items count) (i : Nat) {j : Nat}
    (inRange : 1 ≤ j ∧ j ≤ count) :
    nodeAt items count i = some (items j) ↔ i = j := by
  unfold nodeAt
  constructor
  · intro found
    split at found
    · rename_i taken
      exact (layout.items_eq_iff taken inRange).mp (Option.some.inj found)
    · cases found
  · rintro rfl
    exact if_pos inRange

private theorem nodeAt_swap
    (items : Nat → Node) {i j : Nat} (first : 1 ≤ i ∧ i ≤ count)
    (second : 1 ≤ j ∧ j ≤ count) (other : Nat) :
    nodeAt (items ∘ Equiv.swap i j) count other =
      if other = i then some (items j)
      else if other = j then some (items i)
      else nodeAt items count other := by
  unfold nodeAt
  simp only [Function.comp_apply, Equiv.swap_apply_def]
  split_ifs <;> first | rfl | omega

theorem swap_inRange
    {i j other : Nat} (first : 1 ≤ i ∧ i ≤ count)
    (second : 1 ≤ j ∧ j ≤ count) (inRange : 1 ≤ other ∧ other ≤ count) :
    1 ≤ Equiv.swap i j other ∧ Equiv.swap i j other ≤ count := by
  rw [Equiv.swap_apply_def]
  split_ifs
  · exact second
  · exact first
  · exact inRange

variable [DecidableEq Node]

theorem update_nodes
    (heap : Heap Node) (node other : Node)
    (write : HeapNode Node → HeapNode Node) :
    (heap.update node write).nodes other =
      if other = node then write (heap.nodes node)
      else heap.nodes other := by
  exact Function.update_apply _ _ _ _

@[simp]
theorem update_nodes_self
    (heap : Heap Node) (node : Node)
    (write : HeapNode Node → HeapNode Node) :
    (heap.update node write).nodes node = write (heap.nodes node) := by
  rw [update_nodes, if_pos rfl]

@[simp]
theorem update_nelts
    (heap : Heap Node) (node : Node)
    (write : HeapNode Node → HeapNode Node) :
    (heap.update node write).nelts = heap.nelts := rfl

private theorem update_update
    (heap : Heap Node) (node : Node)
    (first second : HeapNode Node → HeapNode Node) :
    (heap.update node first).update node second =
      heap.update node fun fields => second (first fields) := by
  simp [update]

private theorem update_comm
    (heap : Heap Node) {node other : Node} (different : node ≠ other)
    (first second : HeapNode Node → HeapNode Node) :
    (heap.update node first).update other second =
      (heap.update other second).update node first := by
  simp only [update, Function.update_of_ne different,
    Function.update_of_ne different.symm]
  rw [Function.update_comm different]

@[simp]
theorem adopt_min (heap : Heap Node) (node : Option Node) (parent : Node) :
    (heap.adopt node parent).min = heap.min := by
  cases node <;> rfl

@[simp]
theorem adopt_nelts (heap : Heap Node) (node : Option Node) (parent : Node) :
    (heap.adopt node parent).nelts = heap.nelts := by
  cases node <;> rfl

@[simp]
theorem adopt_left
    (heap : Heap Node) (node : Option Node) (parent other : Node) :
    ((heap.adopt node parent).nodes other).left =
      (heap.nodes other).left := by
  cases node with
  | none => rfl
  | some node =>
      simp only [adopt, setParent, update_nodes]
      split_ifs with same
      · rw [same]
      · rfl

@[simp]
theorem adopt_right
    (heap : Heap Node) (node : Option Node) (parent other : Node) :
    ((heap.adopt node parent).nodes other).right =
      (heap.nodes other).right := by
  cases node with
  | none => rfl
  | some node =>
      simp only [adopt, setParent, update_nodes]
      split_ifs with same
      · rw [same]
      · rfl

theorem adopt_parent
    (heap : Heap Node) (node : Option Node) (parent other : Node) :
    ((heap.adopt node parent).nodes other).parent =
      if node = some other then some parent
      else (heap.nodes other).parent := by
  cases node with
  | none => simp [adopt]
  | some node =>
      simp only [adopt, setParent, update_nodes, Option.some.injEq,
        eq_comm (a := node)]
      split_ifs <;> rfl

theorem redirect_min
    (heap : Heap Node) (parent : Option Node) (node other : Node) :
    (heap.redirect parent node other).min =
      if parent = none then some other else heap.min := by
  cases parent with
  | none => rfl
  | some parent =>
      rw [if_neg (Option.some_ne_none parent), redirect]
      split_ifs <;> rfl

theorem redirect_nelts
    (heap : Heap Node) (parent : Option Node) (node other : Node) :
    (heap.redirect parent node other).nelts = heap.nelts := by
  cases parent with
  | none => rfl
  | some parent =>
      simp only [redirect]
      split_ifs <;> rfl

theorem redirect_nodes
    (heap : Heap Node) (parent : Option Node) (node other member : Node) :
    (heap.redirect parent node other).nodes member =
      { left :=
          if parent = some member ∧ (heap.nodes member).left = some node then
            some other
          else (heap.nodes member).left
        right :=
          if parent = some member ∧ (heap.nodes member).left ≠ some node then
            some other
          else (heap.nodes member).right
        parent := (heap.nodes member).parent } := by
  cases parent with
  | none => simp [redirect]
  | some parent =>
      simp only [redirect, Option.some.injEq]
      by_cases same : parent = member
      · subst same
        by_cases isLeft : (heap.nodes parent).left = some node
        · simp [setLeft, isLeft]
        · simp [setRight, isLeft]
      · have different : ¬ member = parent := fun equal => same equal.symm
        by_cases isLeft : (heap.nodes parent).left = some node
        · simp [setLeft, update_nodes, isLeft, same, different]
        · simp [setRight, update_nodes, isLeft, same, different]

/-! ## Exchanging a parent with a child -/

def sibling (heap : Heap Node) (parent child : Node) : Option Node :=
  if (heap.nodes parent).left = some child then (heap.nodes parent).right
  else (heap.nodes parent).left

/-- The heap after the first half of `heap_node_swap`: both nodes have the
fields of each other and point to each other. -/
def exchanged (heap : Heap Node) (parent child : Node) : Heap Node :=
  (heap.update parent fun _ =>
      { heap.nodes child with parent := some child }).update child fun _ =>
    if (heap.nodes parent).left = some child then
      { heap.nodes parent with left := some parent }
    else { heap.nodes parent with right := some parent }

/-- The heap when the nodes around the two have been told, except for the node
above them. -/
def linked (heap : Heap Node) (parent child : Node) : Heap Node :=
  (((heap.exchanged parent child).adopt (heap.sibling parent child)
    child).adopt (heap.nodes child).left parent).adopt
      (heap.nodes child).right parent

private theorem exchanged_child (heap : Heap Node) (parent child : Node) :
    (heap.exchanged parent child).nodes child =
      if (heap.nodes parent).left = some child then
        { heap.nodes parent with left := some parent }
      else { heap.nodes parent with right := some parent } := by
  rw [exchanged, update_nodes_self]

private theorem exchanged_parent
    (heap : Heap Node) {parent child : Node} (different : parent ≠ child) :
    (heap.exchanged parent child).nodes parent =
      { heap.nodes child with parent := some child } := by
  rw [exchanged, update_nodes, if_neg different, update_nodes_self]

private theorem exchanged_of_ne
    (heap : Heap Node) {parent child other : Node}
    (notParent : other ≠ parent) (notChild : other ≠ child) :
    (heap.exchanged parent child).nodes other = heap.nodes other := by
  rw [exchanged, update_nodes, if_neg notChild, update_nodes,
    if_neg notParent]

private theorem heapNodeSwap_eq
    (heap : Heap Node) {parent child : Node} (different : parent ≠ child) :
    heap.heapNodeSwap parent child =
      (heap.linked parent child).redirect
        ((heap.linked parent child).nodes child).parent parent child := by
  have copied :
      ((heap.update parent fun _ => heap.nodes child).update child fun _ =>
          heap.nodes parent).setParent parent (some child) =
        (heap.update parent fun _ =>
            { heap.nodes child with parent := some child }).update child
          fun _ => heap.nodes parent := by
    rw [setParent, update_comm _ different.symm, update_update]
  have relinked :
      (if (heap.nodes parent).left = some child then
          (((heap.update parent fun _ =>
              { heap.nodes child with parent := some child }).update child
            fun _ => heap.nodes parent).setLeft child (some parent),
            (heap.nodes parent).right)
        else
          (((heap.update parent fun _ =>
              { heap.nodes child with parent := some child }).update child
            fun _ => heap.nodes parent).setRight child (some parent),
            (heap.nodes parent).left)) =
        (heap.exchanged parent child, heap.sibling parent child) := by
    unfold exchanged sibling
    split_ifs <;> simp only [setLeft, setRight, update_update]
  unfold heapNodeSwap
  simp only [copied, update_nodes_self, relinked, adopt_left, adopt_right]
  rw [exchanged_parent heap different]
  rfl

@[simp]
theorem linked_left (heap : Heap Node) (parent child other : Node) :
    ((heap.linked parent child).nodes other).left =
      ((heap.exchanged parent child).nodes other).left := by
  simp only [linked, adopt_left]

@[simp]
theorem linked_right (heap : Heap Node) (parent child other : Node) :
    ((heap.linked parent child).nodes other).right =
      ((heap.exchanged parent child).nodes other).right := by
  simp only [linked, adopt_right]

@[simp]
theorem linked_min (heap : Heap Node) (parent child : Node) :
    (heap.linked parent child).min = heap.min := by
  simp only [linked, adopt_min]
  rfl

@[simp]
theorem linked_nelts (heap : Heap Node) (parent child : Node) :
    (heap.linked parent child).nelts = heap.nelts := by
  simp only [linked, adopt_nelts]
  rfl

theorem Layout.sibling_eq_some_iff
    (layout : heap.Layout items count) {child other : Nat}
    (atLeast : 2 ≤ child) (inRange : child ≤ count)
    (otherInRange : 1 ≤ other ∧ other ≤ count) :
    heap.sibling (items (child / 2)) (items child) = some (items other) ↔
      other / 2 = child / 2 ∧ other ≠ child := by
  have childInRange : 1 ≤ child ∧ child ≤ count := by omega
  unfold sibling
  rw [layout.nodes (child / 2) (by omega) (by omega)]
  simp only [layout.nodeAt_eq_some_iff _ childInRange]
  split_ifs
  · rw [layout.nodeAt_eq_some_iff _ otherInRange]
    omega
  · rw [layout.nodeAt_eq_some_iff _ otherInRange]
    omega

theorem Layout.linked_parent
    (layout : heap.Layout items count) {child other : Nat}
    (atLeast : 2 ≤ child) (inRange : child ≤ count)
    (otherInRange : 1 ≤ other ∧ other ≤ count) :
    ((heap.linked (items (child / 2)) (items child)).nodes
        (items other)).parent =
      if other / 2 = child then some (items (child / 2))
      else if other / 2 = child / 2 ∧ other ≠ child then some (items child)
      else
        ((heap.exchanged (items (child / 2)) (items child)).nodes
          (items other)).parent := by
  simp only [linked, adopt_parent]
  rw [layout.nodes child (by omega) inRange]
  simp only [layout.nodeAt_eq_some_iff _ otherInRange,
    layout.sibling_eq_some_iff atLeast inRange otherInRange]
  split_ifs <;> first | rfl | omega

theorem Layout.heapNodeSwap_eq
    (layout : heap.Layout items count) {child : Nat}
    (atLeast : 2 ≤ child) (inRange : child ≤ count) :
    heap.heapNodeSwap (items (child / 2)) (items child) =
      (heap.linked (items (child / 2)) (items child)).redirect
        (nodeAt items count (child / 2 / 2)) (items (child / 2))
        (items child) := by
  have childInRange : 1 ≤ child ∧ child ≤ count := by omega
  have different : items (child / 2) ≠ items child := by
    rw [Ne, layout.items_eq_iff (by omega) childInRange]
    omega
  have above :
      ((heap.linked (items (child / 2)) (items child)).nodes
          (items child)).parent =
        nodeAt items count (child / 2 / 2) := by
    rw [layout.linked_parent atLeast inRange childInRange,
      if_neg (by omega), if_neg (by omega), exchanged_child,
      layout.nodes (child / 2) (by omega) (by omega)]
    split_ifs <;> rfl
  rw [← above]
  exact Heap.heapNodeSwap_eq heap different

/-- `heap_node_swap` exchanges a child with its parent in the sequence of the
nodes. -/
theorem Layout.swap
    (layout : heap.Layout items count) {child : Nat}
    (atLeast : 2 ≤ child) (inRange : child ≤ count) :
    (heap.heapNodeSwap (items (child / 2)) (items child)).Layout
      (items ∘ Equiv.swap (child / 2) child) count := by
  have childInRange : 1 ≤ child ∧ child ≤ count := by omega
  have parentInRange : 1 ≤ child / 2 ∧ child / 2 ≤ count := by omega
  have different : items (child / 2) ≠ items child := by
    rw [Ne, layout.items_eq_iff parentInRange childInRange]
    omega
  have nodesOfParent :=
    layout.nodes (child / 2) parentInRange.1 parentInRange.2
  have nodesOfChild := layout.nodes child childInRange.1 inRange
  rw [layout.heapNodeSwap_eq atLeast inRange]
  constructor
  · rw [redirect_min, linked_min, layout.min,
      nodeAt_swap items parentInRange childInRange]
    simp only [nodeAt]
    split_ifs <;> first | rfl | omega | simp_all
  · rw [redirect_nelts, linked_nelts, layout.nelts]
  · intro i positive atMost
    rw [redirect_nodes]
    simp only [linked_left, linked_right,
      nodeAt_swap items parentInRange childInRange, Function.comp_apply]
    by_cases isParent : i = child / 2
    · rw [isParent, Equiv.swap_apply_left]
      simp only [layout.linked_parent atLeast inRange childInRange,
        exchanged_child, nodesOfParent,
        layout.nodeAt_eq_some_iff _ childInRange]
      congr 1 <;> split_ifs <;> first | rfl | omega
    · by_cases isChild : i = child
      · rw [isChild, Equiv.swap_apply_right]
        simp only [layout.linked_parent atLeast inRange parentInRange,
          exchanged_parent heap different, nodesOfChild,
          layout.nodeAt_eq_some_iff _ parentInRange]
        congr 1 <;> split_ifs <;> first | rfl | omega
      · have iInRange : 1 ≤ i ∧ i ≤ count := ⟨positive, atMost⟩
        have notParent : items i ≠ items (child / 2) := by
          rwa [Ne, layout.items_eq_iff iInRange parentInRange]
        have notChild : items i ≠ items child := by
          rwa [Ne, layout.items_eq_iff iInRange childInRange]
        rw [Equiv.swap_apply_of_ne_of_ne isParent isChild]
        simp only [layout.linked_parent atLeast inRange iInRange,
          exchanged_of_ne heap notParent notChild,
          layout.nodes i positive atMost,
          layout.nodeAt_eq_some_iff _ iInRange,
          layout.nodeAt_eq_some_iff _ parentInRange, ne_eq]
        congr 1 <;> split_ifs <;> first | rfl | omega
  · intro i j iPositive iAtMost jPositive jAtMost same
    have iMoved :=
      swap_inRange parentInRange childInRange ⟨iPositive, iAtMost⟩
    have jMoved :=
      swap_inRange parentInRange childInRange ⟨jPositive, jAtMost⟩
    exact
      (Equiv.swap (child / 2) child).injective
        ((layout.items_eq_iff iMoved jMoved).mp same)

end Heap

end DkPull.Libuv
