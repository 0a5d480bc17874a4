import Mathlib.Logic.Equiv.Basic
import Mathlib.Order.Lattice
import Mathlib.Tactic.Common

/-!
# The order of a binary heap

The nodes of a complete binary tree are numbered row by row.  The root has the
number one, and the children of a node have twice its number and one more.  In
a heap no node has a smaller key than its parent.

When one node gets another key, the order is violated around this node only.
It is restored by exchanging keys along a path: down while a child is smaller,
and up while the parent is greater.
-/

namespace DkPull.Structures

variable {Key : Type*} [LinearOrder Key]

/-- No node has a smaller key than its parent. -/
def HeapOrdered (keys : Nat → Key) (count : Nat) : Prop :=
  ∀ i, 2 ≤ i → i ≤ count → keys (i / 2) ≤ keys i

/-- The order is violated around one node at most, and its children would still
be in order below its parent. -/
structure OrderedAround
    (keys : Nat → Key) (count hole : Nat) : Prop where
  elsewhere :
    ∀ i, 2 ≤ i → i ≤ count → i ≠ hole → i / 2 ≠ hole →
      keys (i / 2) ≤ keys i
  bridged :
    ∀ i, i ≤ count → i / 2 = hole → 2 ≤ hole →
      keys (hole / 2) ≤ keys i

/-- No child of a node has a smaller key. -/
def OrderedBelow (keys : Nat → Key) (count hole : Nat) : Prop :=
  ∀ i, i ≤ count → i / 2 = hole → keys hole ≤ keys i

theorem HeapOrdered.root_le
    {keys : Nat → Key} {count : Nat} (ordered : HeapOrdered keys count)
    {i : Nat} (positive : 1 ≤ i) (inRange : i ≤ count) :
    keys 1 ≤ keys i := by
  induction i using Nat.strongRecOn with
  | ind i inductionHypothesis =>
      by_cases isRoot : i = 1
      · rw [isRoot]
      · have aboveParent :=
          inductionHypothesis (i / 2) (by omega) (by omega) (by omega)
        exact aboveParent.trans (ordered i (by omega) inRange)

theorem HeapOrdered.orderedAround
    {keys changed : Nat → Key} {count hole : Nat}
    (ordered : HeapOrdered keys count)
    (same : ∀ i, 1 ≤ i → i ≤ count → i ≠ hole → changed i = keys i) :
    OrderedAround changed count hole where
  elsewhere := by
    intro i atLeast inRange different parentDifferent
    rw [same i (by omega) inRange different,
      same (i / 2) (by omega) (by omega) parentDifferent]
    exact ordered i atLeast inRange
  bridged := by
    intro i inRange isChild atLeast
    rw [same i (by omega) inRange (by omega),
      same (hole / 2) (by omega) (by omega) (by omega)]
    calc
      keys (hole / 2) ≤ keys hole := ordered hole atLeast (by omega)
      _ = keys (i / 2) := by rw [isChild]
      _ ≤ keys i := ordered i (by omega) inRange

theorem HeapOrdered.extended
    {keys changed : Nat → Key} {count : Nat}
    (ordered : HeapOrdered keys count)
    (same : ∀ i, 1 ≤ i → i ≤ count → changed i = keys i) :
    OrderedAround changed (count + 1) (count + 1) ∧
      OrderedBelow changed (count + 1) (count + 1) := by
  constructor
  · constructor
    · intro i atLeast inRange different _
      rw [same i (by omega) (by omega), same (i / 2) (by omega) (by omega)]
      exact ordered i atLeast (by omega)
    · intro i inRange isChild _
      omega
  · intro i inRange isChild
    omega

/-- A node that is out of order with neither its children nor its parent is in
order. -/
theorem OrderedAround.heapOrdered
    {keys : Nat → Key} {count hole : Nat}
    (around : OrderedAround keys count hole)
    (below : OrderedBelow keys count hole)
    (above : 2 ≤ hole → keys (hole / 2) ≤ keys hole) :
    HeapOrdered keys count := by
  intro i atLeast inRange
  by_cases isHole : i = hole
  · subst isHole
    exact above atLeast
  · by_cases isChild : i / 2 = hole
    · rw [isChild]
      exact below i inRange isChild
    · exact around.elsewhere i atLeast inRange isHole isChild

/-- A node that is smaller than its parent changes places with it. -/
theorem OrderedAround.up
    {keys : Nat → Key} {count hole : Nat}
    (around : OrderedAround keys count hole)
    (atLeast : 2 ≤ hole) (inRange : hole ≤ count)
    (smaller : keys hole < keys (hole / 2)) :
    OrderedAround (keys ∘ Equiv.swap (hole / 2) hole) count (hole / 2) ∧
      OrderedBelow (keys ∘ Equiv.swap (hole / 2) hole) count
        (hole / 2) := by
  have parentMoved :
      (keys ∘ Equiv.swap (hole / 2) hole) hole = keys (hole / 2) := by
    rw [Function.comp_apply, Equiv.swap_apply_right]
  have holeMoved :
      (keys ∘ Equiv.swap (hole / 2) hole) (hole / 2) = keys hole := by
    rw [Function.comp_apply, Equiv.swap_apply_left]
  have stayed :
      ∀ i, i ≠ hole / 2 → i ≠ hole →
        (keys ∘ Equiv.swap (hole / 2) hole) i = keys i := by
    intro i notParent notHole
    rw [Function.comp_apply, Equiv.swap_apply_of_ne_of_ne notParent notHole]
  constructor
  · constructor
    · intro i _ inside notParent isOther
      have notHole : i ≠ hole := fun same => isOther (by rw [same])
      rw [stayed i notParent notHole]
      by_cases isChild : i / 2 = hole
      · rw [isChild, parentMoved]
        exact around.bridged i inside isChild atLeast
      · rw [stayed (i / 2) isOther isChild]
        exact around.elsewhere i (by omega) inside notHole isChild
    · intro i inside isChild further
      have grandparent :
          keys (hole / 2 / 2) ≤ keys (hole / 2) :=
        around.elsewhere (hole / 2) further (by omega) (by omega) (by omega)
      rw [stayed (hole / 2 / 2) (by omega) (by omega)]
      by_cases isHole : i = hole
      · rw [isHole, parentMoved]
        exact grandparent
      · rw [stayed i (by omega) isHole]
        have sibling :=
          around.elsewhere i (by omega) inside isHole (by omega)
        rw [isChild] at sibling
        exact grandparent.trans sibling
  · intro i inside isChild
    rw [holeMoved]
    by_cases isHole : i = hole
    · rw [isHole, parentMoved]
      exact smaller.le
    · rw [stayed i (by omega) isHole]
      have sibling :=
        around.elsewhere i (by omega) inside isHole (by omega)
      rw [isChild] at sibling
      exact smaller.le.trans sibling

/-- A node changes places with its smallest child. -/
theorem OrderedAround.down
    {keys : Nat → Key} {count hole child : Nat}
    (around : OrderedAround keys count hole)
    (isChild : child / 2 = hole) (inRange : child ≤ count)
    (smallest : ∀ i, i ≤ count → i / 2 = hole → keys child ≤ keys i) :
    OrderedAround (keys ∘ Equiv.swap hole child) count child := by
  have holeMoved : (keys ∘ Equiv.swap hole child) child = keys hole := by
    rw [Function.comp_apply, Equiv.swap_apply_right]
  have childMoved : (keys ∘ Equiv.swap hole child) hole = keys child := by
    rw [Function.comp_apply, Equiv.swap_apply_left]
  have stayed :
      ∀ i, i ≠ hole → i ≠ child →
        (keys ∘ Equiv.swap hole child) i = keys i := by
    intro i notHole notChild
    rw [Function.comp_apply, Equiv.swap_apply_of_ne_of_ne notHole notChild]
  constructor
  · intro i atLeast inside notChild isOther
    by_cases isHole : i = hole
    · rw [isHole, childMoved, stayed (hole / 2) (by omega) (by omega)]
      exact around.bridged child inRange isChild (by omega)
    · rw [stayed i isHole notChild]
      by_cases isSibling : i / 2 = hole
      · rw [isSibling, childMoved]
        exact smallest i inside isSibling
      · rw [stayed (i / 2) isSibling isOther]
        exact around.elsewhere i atLeast inside isHole isSibling
  · intro i inside isGrandchild _
    rw [isChild, childMoved, stayed i (by omega) (by omega)]
    have ordered :=
      around.elsewhere i (by omega) inside (by omega) (by omega)
    rw [isGrandchild] at ordered
    exact ordered

end DkPull.Structures
