import DkPull.Libuv.HeapPlaces
import DkPull.Structures.HeapOrder
import Mathlib.Data.Set.Insert
import Mathlib.Tactic.Ring

/-!
# Inserting into a heap and removing from it

The comparison of two nodes is that of their keys.  The loops that walk up and
down the tree restore the order of the keys in as many turns as the tree has
rows, so that its root always has the smallest key.
-/

namespace DkPull.Libuv

namespace Heap

open DkPull.Structures

variable {Node Key : Type} [LinearOrder Key]

def members (items : Nat → Node) (count : Nat) : Set Node :=
  { node | ∃ i, 1 ≤ i ∧ i ≤ count ∧ items i = node }

/-- The heap is well formed and has the given members. -/
structure Holds
    (heap : Heap Node) (key : Node → Key) (nodes : Set Node) : Prop where
  arranged :
    ∃ items count,
      heap.Layout items count ∧ HeapOrdered (key ∘ items) count ∧
        members items count = nodes

private theorem members_swap
    (items : Nat → Node) {count i j : Nat} (first : 1 ≤ i ∧ i ≤ count)
    (second : 1 ≤ j ∧ j ≤ count) :
    members (items ∘ Equiv.swap i j) count = members items count := by
  ext node
  constructor
  · rintro ⟨other, positive, atMost, same⟩
    obtain ⟨above, below⟩ := swap_inRange first second ⟨positive, atMost⟩
    exact ⟨_, above, below, same⟩
  · rintro ⟨other, positive, atMost, same⟩
    obtain ⟨above, below⟩ := swap_inRange first second ⟨positive, atMost⟩
    refine ⟨_, above, below, ?_⟩
    rw [Function.comp_apply, Equiv.swap_apply_self]
    exact same

private theorem members_extended
    (items : Nat → Node) (count : Nat) (node : Node) :
    members (Function.update items (count + 1) node) (count + 1) =
      insert node (members items count) := by
  ext other
  rw [Set.mem_insert_iff]
  constructor
  · rintro ⟨i, positive, atMost, same⟩
    by_cases isLast : i = count + 1
    · rw [isLast, Function.update_self] at same
      exact .inl same.symm
    · rw [Function.update_of_ne isLast] at same
      exact .inr ⟨i, positive, by omega, same⟩
  · rintro (rfl | ⟨i, positive, atMost, same⟩)
    · exact ⟨count + 1, by omega, by omega, Function.update_self _ _ _⟩
    · refine ⟨i, positive, by omega, ?_⟩
      rw [Function.update_of_ne (by omega)]
      exact same

variable {heap : Heap Node} {items : Nat → Node} {count : Nat}

/-- The last node leaves the heap, or takes the place of the one that does. -/
theorem Layout.members_replaced
    (layout : heap.Layout items count) {i : Nat}
    (inRange : 1 ≤ i ∧ i ≤ count) :
    members (Function.update items i (items count)) (count - 1) =
      members items count \ {items i} := by
  have lastInRange : 1 ≤ count ∧ count ≤ count := by omega
  ext node
  rw [Set.mem_sdiff, Set.mem_singleton_iff]
  constructor
  · rintro ⟨j, positive, atMost, same⟩
    by_cases isPlace : j = i
    · rw [isPlace, Function.update_self] at same
      refine ⟨⟨count, lastInRange.1, lastInRange.2, same⟩, ?_⟩
      rw [← same, layout.items_eq_iff lastInRange inRange]
      omega
    · rw [Function.update_of_ne isPlace] at same
      refine ⟨⟨j, positive, by omega, same⟩, ?_⟩
      rw [← same, layout.items_eq_iff (by omega) inRange]
      exact isPlace
  · rintro ⟨⟨j, positive, atMost, rfl⟩, different⟩
    rw [layout.items_eq_iff ⟨positive, atMost⟩ inRange] at different
    by_cases isLast : j = count
    · refine ⟨i, inRange.1, by omega, ?_⟩
      rw [Function.update_self, isLast]
    · refine ⟨j, positive, by omega, ?_⟩
      rw [Function.update_of_ne different]

variable {key : Node → Key}

theorem Holds.heapMin
    {nodes : Set Node} (holds : heap.Holds key nodes) :
    (heap.heapMin = none ↔ nodes = ∅) ∧
      ∀ least, heap.heapMin = some least →
        least ∈ nodes ∧ ∀ node ∈ nodes, key least ≤ key node := by
  obtain ⟨items, count, layout, ordered, rfl⟩ := holds.arranged
  unfold Heap.heapMin
  rw [layout.min, nodeAt]
  split_ifs with inhabited
  · refine ⟨?_, ?_⟩
    · simp only [false_iff]
      intro empty
      have first : items 1 ∈ members items count :=
        ⟨1, inhabited.1, inhabited.2, rfl⟩
      rw [empty] at first
      exact first
    · rintro least ⟨⟩
      refine ⟨⟨1, inhabited.1, inhabited.2, rfl⟩, ?_⟩
      rintro node ⟨i, positive, atMost, rfl⟩
      exact ordered.root_le positive atMost
  · refine ⟨?_, ?_⟩
    · simp only [true_iff]
      rw [Set.eq_empty_iff_forall_notMem]
      rintro node ⟨i, positive, atMost, -⟩
      omega
    · intro least impossible
      cases impossible

variable [DecidableEq Node] {lessThan : Node → Node → Bool}

theorem Layout.swap_nelts
    (layout : heap.Layout items count) {child : Nat}
    (atLeast : 2 ≤ child) (inRange : child ≤ count) :
    (heap.heapNodeSwap (items (child / 2)) (items child)).nelts =
      heap.nelts := by
  rw [← UInt32.toNat_inj, (layout.swap atLeast inRange).nelts, layout.nelts]

/-- The loop that walks up puts a node in its place below a smaller one. -/
theorem Layout.walkUp
    (compares : ∀ a b, lessThan a b = true ↔ key a < key b)
    (layout : heap.Layout items count) {i turns : Nat}
    (inRange : 1 ≤ i ∧ i ≤ count) (fits : i < 2 ^ turns)
    (around : OrderedAround (key ∘ items) count i)
    (below : OrderedBelow (key ∘ items) count i) :
    ∃ result,
      Heap.walkUp lessThan (items i) turns heap = some result ∧
        result.Holds key (members items count) ∧
        result.nelts = heap.nelts := by
  induction turns generalizing heap items i with
  | zero =>
      rw [pow_zero] at fits
      omega
  | succ turns inductionHypothesis =>
      rw [Heap.walkUp, layout.nodes i inRange.1 inRange.2]
      by_cases isRoot : i = 1
      · have noParent : nodeAt items count (i / 2) = none :=
          if_neg (by omega)
        have ordered := around.heapOrdered below (by omega)
        simp only [noParent]
        exact ⟨heap, rfl, ⟨items, count, layout, ordered, rfl⟩, rfl⟩
      · have parent : nodeAt items count (i / 2) = some (items (i / 2)) :=
          if_pos (by omega)
        simp only [parent]
        by_cases less : key (items i) < key (items (i / 2))
        · have swapped := layout.swap (by omega) inRange.2
          have moved := around.up (by omega) inRange.2 less
          obtain ⟨result, walked, holds, counted⟩ :=
            inductionHypothesis swapped (i := i / 2) (by omega)
              (by rw [pow_succ] at fits; omega) moved.1 moved.2
          rw [members_swap items (by omega) inRange] at holds
          rw [layout.swap_nelts (by omega) inRange.2] at counted
          rw [Function.comp_apply, Equiv.swap_apply_left] at walked
          rw [if_pos ((compares _ _).mpr less)]
          exact ⟨result, walked, holds, counted⟩
        · have ordered := around.heapOrdered below fun _ => not_lt.mp less
          rw [if_neg fun isLess => less ((compares _ _).mp isLess)]
          exact ⟨heap, rfl, ⟨items, count, layout, ordered, rfl⟩, rfl⟩

omit [DecidableEq Node] in
/-- The loop that walks down goes on with the smallest of a node and its
children. -/
theorem exists_smallest
    (compares : ∀ a b, lessThan a b = true ↔ key a < key b)
    (items : Nat → Node) {i : Nat} (inRange : 1 ≤ i ∧ i ≤ count) :
    ∃ j,
      smaller lessThan
          (smaller lessThan (items i) (nodeAt items count (2 * i)))
          (nodeAt items count (2 * i + 1)) = items j ∧
        (j = i ∨ j / 2 = i) ∧ j ≤ count ∧
        ∀ k, k ≤ count → k = i ∨ k / 2 = i →
          key (items j) ≤ key (items k) := by
  have step :
      ∀ j other, ∃ k,
        smaller lessThan (items j) (nodeAt items count other) = items k ∧
          (k = j ∨ k = other ∧ 1 ≤ other ∧ other ≤ count) ∧
          key (items k) ≤ key (items j) ∧
          (1 ≤ other ∧ other ≤ count →
            key (items k) ≤ key (items other)) := by
    intro j other
    unfold nodeAt
    by_cases taken : 1 ≤ other ∧ other ≤ count
    · rw [if_pos taken]
      by_cases less : key (items other) < key (items j)
      · have isLess := (compares _ _).mpr less
        refine ⟨other, ?_, .inr ⟨rfl, taken⟩, less.le, fun _ => le_refl _⟩
        rw [smaller, if_pos isLess]
      · have notLess : ¬ lessThan (items other) (items j) = true :=
          fun isLess => less ((compares _ _).mp isLess)
        refine ⟨j, ?_, .inl rfl, le_refl _, fun _ => not_lt.mp less⟩
        rw [smaller, if_neg notLess]
    · rw [if_neg taken]
      exact ⟨j, rfl, .inl rfl, le_refl _, fun isTaken => absurd isTaken taken⟩
  obtain ⟨first, firstSmaller, isFirst, firstLe, leftLe⟩ := step i (2 * i)
  obtain ⟨second, secondSmaller, isSecond, secondLe, rightLe⟩ :=
    step first (2 * i + 1)
  refine ⟨second, by rw [firstSmaller, secondSmaller], by omega, by omega, ?_⟩
  rintro k within (rfl | isChild)
  · exact secondLe.trans firstLe
  · by_cases isLeft : k = 2 * i
    · have inside : 1 ≤ 2 * i ∧ 2 * i ≤ count := by omega
      rw [isLeft]
      exact secondLe.trans (leftLe inside)
    · have isRight : k = 2 * i + 1 := by omega
      have inside : 1 ≤ 2 * i + 1 ∧ 2 * i + 1 ≤ count := by omega
      rw [isRight]
      exact rightLe inside

/-- The loop that walks down puts a node in its place above greater ones. -/
theorem Layout.walkDown
    (compares : ∀ a b, lessThan a b = true ↔ key a < key b)
    (layout : heap.Layout items count) {i turns : Nat}
    (inRange : 1 ≤ i ∧ i ≤ count) (fits : count < i * 2 ^ turns)
    (around : OrderedAround (key ∘ items) count i) :
    ∃ result arrangement j,
      Heap.walkDown lessThan (items i) turns heap = some result ∧
        result.Layout arrangement count ∧ (1 ≤ j ∧ j ≤ count) ∧
        arrangement j = items i ∧
        OrderedAround (key ∘ arrangement) count j ∧
        OrderedBelow (key ∘ arrangement) count j ∧
        members arrangement count = members items count ∧
        result.nelts = heap.nelts := by
  induction turns generalizing heap items i with
  | zero =>
      rw [pow_zero] at fits
      omega
  | succ turns inductionHypothesis =>
      obtain ⟨j, isSmallest, isChild, within, least⟩ :=
        exists_smallest compares items inRange
      rw [Heap.walkDown, layout.nodes i inRange.1 inRange.2]
      simp only [isSmallest]
      by_cases stays : j = i
      · have below : OrderedBelow (key ∘ items) count i := by
          intro k inside isBelow
          rw [← stays]
          exact least k inside (.inr isBelow)
        rw [stays, if_pos rfl]
        exact
          ⟨heap, items, i, rfl, layout, inRange, rfl, around, below, rfl, rfl⟩
      · have isBelow : j / 2 = i := by omega
        have different : items j ≠ items i := by
          rw [Ne, layout.items_eq_iff (by omega) inRange]
          exact stays
        have swapped := layout.swap (by omega) within
        have sameNelts := layout.swap_nelts (by omega) within
        have moved :=
          around.down isBelow within fun k inside isSibling =>
            least k inside (.inr isSibling)
        have further : count < j * 2 ^ turns := by
          calc
            count < i * 2 ^ (turns + 1) := fits
            _ = 2 * i * 2 ^ turns := by rw [pow_succ]; ring
            _ ≤ j * 2 ^ turns := Nat.mul_le_mul_right _ (by omega)
        rw [isBelow] at swapped sameNelts
        obtain ⟨result, arrangement, place, walked, arranged, placed, same,
            aroundPlace, belowPlace, sameMembers, counted⟩ :=
          inductionHypothesis swapped (i := j) (by omega) further moved
        rw [Function.comp_apply, Equiv.swap_apply_right] at walked same
        rw [members_swap items inRange (by omega)] at sameMembers
        rw [sameNelts] at counted
        rw [if_neg different]
        exact
          ⟨result, arrangement, place, walked, arranged, placed, same,
            aroundPlace, belowPlace, sameMembers, counted⟩

/-! ## The operations -/

omit [DecidableEq Node] in
theorem Holds.congr
    {nodes : Set Node} {other : Node → Key} (holds : heap.Holds key nodes)
    (same : ∀ node ∈ nodes, other node = key node) :
    heap.Holds other nodes := by
  obtain ⟨items, count, layout, ordered, rfl⟩ := holds.arranged
  refine ⟨items, count, layout, ?_, rfl⟩
  intro i atLeast inRange
  rw [Function.comp_apply, Function.comp_apply,
    same _ ⟨i / 2, by omega, by omega, rfl⟩,
    same _ ⟨i, by omega, inRange, rfl⟩]
  exact ordered i atLeast inRange

theorem Layout.update_fresh
    (layout : heap.Layout items count) {node : Node}
    (fresh : ∀ i, 1 ≤ i → i ≤ count → items i ≠ node)
    (write : HeapNode Node → HeapNode Node) :
    (heap.update node write).Layout items count where
  min := layout.min
  nelts := layout.nelts
  nodes := by
    intro i positive atMost
    rw [update_nodes, if_neg (fresh i positive atMost)]
    exact layout.nodes i positive atMost
  injective := layout.injective

omit [DecidableEq Node] in
theorem Layout.read_parent (layout : heap.Layout items count) :
    heap.read (linkTo items ((count + 1) / 2)) =
      nodeAt items count ((count + 1) / 2) := by
  by_cases isEmpty : count = 0
  · subst isEmpty
    exact layout.min
  · exact layout.read_linkTo (by omega) (by omega)

theorem Holds.heapInsert
    (compares : ∀ a b, lessThan a b = true ↔ key a < key b)
    {nodes : Set Node} (holds : heap.Holds key nodes) {newnode : Node}
    (fresh : newnode ∉ nodes) {turns : Nat}
    (room : heap.nelts.toNat + 1 < 2 ^ 32)
    (fits : heap.nelts.toNat + 1 < 2 ^ turns) :
    ∃ result,
      heap.heapInsert lessThan turns newnode = some result ∧
        result.Holds key (insert newnode nodes) ∧
        result.nelts = heap.nelts + 1 := by
  obtain ⟨items, count, layout, ordered, rfl⟩ := holds.arranged
  have counted := layout.nelts
  have notItem : ∀ i, 1 ≤ i → i ≤ count → items i ≠ newnode :=
    fun i positive atMost same => fresh ⟨i, positive, atMost, same⟩
  have place : (1 + heap.nelts).toNat = count + 1 := by
    rw [UInt32.toNat_add, counted]
    change (1 + count) % 2 ^ 32 = _
    omega
  let cleared := heap.update newnode fun _ => {}
  have clearedLayout : cleared.Layout items count :=
    layout.update_fresh notItem _
  have found :=
    clearedLayout.traverse_path (n := 1 + heap.nelts) (by omega) (by omega)
  rw [place] at found
  let prepared :=
    cleared.setParent newnode
      (cleared.read (linkTo items ((count + 1) / 2)))
  have preparedLayout : prepared.Layout items count :=
    clearedLayout.update_fresh notItem _
  have fields :
      prepared.nodes newnode =
        { parent := nodeAt items count ((count + 1) / 2) } := by
    simp only [prepared, setParent, update_nodes_self, cleared]
    rw [← clearedLayout.read_parent]
  have attached :=
    preparedLayout.attached notItem fields (by omega)
  have extended :
      OrderedAround (key ∘ Function.update items (count + 1) newnode)
          (count + 1) (count + 1) ∧
        OrderedBelow (key ∘ Function.update items (count + 1) newnode)
          (count + 1) (count + 1) := by
    apply ordered.extended
    intro i _ atMost
    rw [Function.comp_apply, Function.update_of_ne (by omega)]
    rfl
  have shallow : count + 1 < 2 ^ turns := by omega
  obtain ⟨result, walked, resultHolds, resultNelts⟩ :=
    attached.walkUp compares ⟨by omega, le_refl _⟩ shallow extended.1
      extended.2
  rw [Function.update_self] at walked
  rw [members_extended] at resultHolds
  have sameNelts : prepared.nelts = heap.nelts := rfl
  refine ⟨result, ?_, resultHolds, by rw [resultNelts, sameNelts]⟩
  have sameTraverse :
      (heap.update newnode fun _ => {}).traverse
          (pathLoop 0 0 (1 + heap.nelts)).2.toNat
          (pathLoop 0 0 (1 + heap.nelts)).1 .min .min =
        some
          (linkTo items ((count + 1) / 2), linkTo items (count + 1)) :=
    found
  rw [Heap.heapInsert]
  simp only [sameTraverse, update_nelts, write_nelts, Option.bind_eq_bind,
    Option.bind_some]
  exact walked

theorem Holds.heapRemove
    (compares : ∀ a b, lessThan a b = true ↔ key a < key b)
    {nodes : Set Node} (holds : heap.Holds key nodes) {node : Node}
    (isMember : node ∈ nodes) {turns : Nat}
    (fits : heap.nelts.toNat < 2 ^ turns) :
    ∃ result,
      heap.heapRemove lessThan turns node = some result ∧
        result.Holds key (nodes \ {node}) ∧
        result.nelts = heap.nelts - 1 := by
  obtain ⟨items, count, layout, ordered, rfl⟩ := holds.arranged
  obtain ⟨i, positive, atMost, rfl⟩ := isMember
  have counted := layout.nelts
  have inRange : 1 ≤ i ∧ i ≤ count := ⟨positive, atMost⟩
  have inhabited : heap.nelts ≠ 0 := by
    intro isEmpty
    rw [isEmpty] at counted
    change 0 = count at counted
    omega
  have found :=
    layout.traverse_path (n := heap.nelts) (by omega) (by omega)
  rw [counted] at found
  let shortened :=
    { heap with nelts := heap.nelts - 1 }.write (linkTo items count) none
  have unlinked : shortened.Layout items (count - 1) :=
    layout.unlinked (by omega)
  have last :
      ({ heap with nelts := heap.nelts - 1 }.read (linkTo items count)) =
        some (items count) := by
    have isRead :
        ({ heap with nelts := heap.nelts - 1 }.read (linkTo items count)) =
          heap.read (linkTo items count) := by
      cases linkTo items count <;> rfl
    rw [isRead, layout.read_linkTo (by omega) (by omega), nodeAt,
      if_pos (by omega)]
  have notLast :
      ∀ j, 1 ≤ j → j ≤ count - 1 → items j ≠ items count := by
    intro j jPositive jAtMost
    rw [Ne, layout.items_eq_iff (by omega) (by omega)]
    omega
  have sameNelts : shortened.nelts = heap.nelts - 1 :=
    write_nelts _ _ _
  have shorter : HeapOrdered (key ∘ items) (count - 1) :=
    fun j atLeast within => ordered j atLeast (by omega)
  rw [← layout.members_replaced inRange, Heap.heapRemove]
  simp only [inhabited, if_false, found, last, Option.bind_eq_bind,
    Option.bind_some]
  by_cases isLast : i = count
  · have notRoot : shortened.min ≠ some (items count) := by
      rw [unlinked.min]
      exact nodeAt_ne_some notLast 1
    rw [isLast, if_pos rfl, if_neg notRoot, Function.update_eq_self]
    exact
      ⟨shortened, rfl, ⟨items, count - 1, unlinked, shorter, rfl⟩, sameNelts⟩
  · have inside : 1 ≤ i ∧ i ≤ count - 1 := by omega
    have different : items count ≠ items i := by
      rw [Ne, layout.items_eq_iff (by omega) inRange]
      exact fun same => isLast same.symm
    have replaced := unlinked.replaced inside notLast
    have around :
        OrderedAround (key ∘ Function.update items i (items count))
          (count - 1) i := by
      apply shorter.orderedAround
      intro j _ _ elsewhere
      rw [Function.comp_apply, Function.update_of_ne elsewhere]
      rfl
    have deep : count - 1 < i * 2 ^ turns := by
      have atLeast := Nat.mul_le_mul_right (2 ^ turns) positive
      omega
    obtain ⟨result, arrangement, place, walkedDown, arranged, placed, same,
        aroundPlace, belowPlace, sameMembers, resultNelts⟩ :=
      replaced.walkDown compares inside deep around
    have shallow : place < 2 ^ turns := by omega
    obtain ⟨final, walkedUp, holds, finalNelts⟩ :=
      arranged.walkUp compares placed shallow aroundPlace belowPlace
    rw [Function.update_self] at walkedDown same
    rw [same] at walkedUp
    rw [sameMembers] at holds
    have replacedNelts :
        (shortened.replace (items i) (items count)).nelts =
          heap.nelts - 1 := by
      rw [← sameNelts, ← UInt32.toNat_inj, replaced.nelts, unlinked.nelts]
    refine ⟨final, ?_, holds, by rw [finalNelts, resultNelts, replacedNelts]⟩
    rw [if_neg different]
    calc
      _ =
          (Heap.walkDown lessThan (items count) turns
            (shortened.replace (items i) (items count))).bind
              fun heap => Heap.walkUp lessThan (items count) turns heap := rfl
      _ = some final := by rw [walkedDown, Option.bind_some, walkedUp]

end Heap

end DkPull.Libuv
