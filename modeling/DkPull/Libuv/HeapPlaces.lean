import DkPull.Libuv.HeapLayout
import Mathlib.Tactic.Ring

/-!
# The last place of a heap

The binary digits of a number tell how to get from the root to the place of
that number.  So the heap finds the first free place and the last one that is
taken, attaches a node there or cuts one off, and puts the node that was cut
off in the place of another one.
-/

namespace DkPull.Libuv

namespace Heap

variable {Node : Type}

def linkTo (items : Nat → Node) (i : Nat) : Link Node :=
  if i ≤ 1 then .min
  else if i % 2 = 0 then .left (items (i / 2))
  else .right (items (i / 2))

variable {heap : Heap Node} {items : Nat → Node} {count : Nat}

theorem Layout.read_linkTo
    (layout : heap.Layout items count) {i : Nat} (positive : 1 ≤ i)
    (within : i / 2 ≤ count) :
    heap.read (linkTo items i) = nodeAt items count i := by
  unfold linkTo
  by_cases isRoot : i ≤ 1
  · have isOne : i = 1 := by omega
    rw [if_pos isRoot, isOne]
    exact layout.min
  · have fields := layout.nodes (i / 2) (by omega) within
    rw [if_neg isRoot]
    split_ifs with even
    · have double : 2 * (i / 2) = i := by omega
      rw [read, fields, double]
    · have double : 2 * (i / 2) + 1 = i := by omega
      rw [read, fields, double]

private theorem nodeAt_update
    (items : Nat → Node) {i : Nat} (inRange : 1 ≤ i ∧ i ≤ count)
    (node : Node) (other : Nat) :
    nodeAt (Function.update items i node) count other =
      if other = i then some node else nodeAt items count other := by
  unfold nodeAt
  by_cases isPlace : other = i
  · rw [isPlace, if_pos inRange, if_pos rfl, Function.update_self]
  · rw [Function.update_of_ne isPlace, if_neg isPlace]

theorem nodeAt_ne_some
    {node : Node} (fresh : ∀ i, 1 ≤ i → i ≤ count → items i ≠ node)
    (i : Nat) : nodeAt items count i ≠ some node := by
  unfold nodeAt
  split_ifs with taken
  · simpa using fresh i taken.1 taken.2
  · simp

/-- A sequence of different nodes with another node in one place. -/
theorem update_injective
    {i : Nat} {node : Node}
    (injective :
      ∀ j k, 1 ≤ j → j ≤ count → 1 ≤ k → k ≤ count → j ≠ i → k ≠ i →
        items j = items k → j = k)
    (fresh : ∀ j, 1 ≤ j → j ≤ count → j ≠ i → items j ≠ node) (j k : Nat)
    (jPositive : 1 ≤ j) (jAtMost : j ≤ count) (kPositive : 1 ≤ k)
    (kAtMost : k ≤ count)
    (same :
      Function.update items i node j = Function.update items i node k) :
    j = k := by
  by_cases jPlace : j = i
  · by_cases kPlace : k = i
    · rw [jPlace, kPlace]
    · rw [jPlace, Function.update_self, Function.update_of_ne kPlace]
        at same
      exact absurd same.symm (fresh k kPositive kAtMost kPlace)
  · by_cases kPlace : k = i
    · rw [kPlace, Function.update_self, Function.update_of_ne jPlace]
        at same
      exact absurd same (fresh j jPositive jAtMost jPlace)
    · rw [Function.update_of_ne jPlace, Function.update_of_ne kPlace]
        at same
      exact
        injective j k jPositive jAtMost kPositive kAtMost jPlace kPlace same

private theorem toNat_path
    {path n : UInt32} (short : path.toNat < 2 ^ 31) :
    (path <<< 1 ||| n &&& 1).toNat = 2 * path.toNat + n.toNat % 2 := by
  have shifted : (path <<< 1).toNat = 2 ^ 1 * path.toNat := by
    rw [UInt32.toNat_shiftLeft]
    change path.toNat <<< 1 % 2 ^ 32 = _
    rw [Nat.shiftLeft_eq]
    omega
  have digit : (n &&& 1).toNat = n.toNat % 2 := by
    rw [UInt32.toNat_and]
    exact Nat.and_one_is_mod n.toNat
  have small : n.toNat % 2 < 2 ^ 1 := Nat.mod_lt _ (by omega)
  rw [UInt32.toNat_or, shifted, digit, ← Nat.two_pow_add_eq_or_of_lt small]

private theorem path_shiftRight
    {path n : UInt32} (short : path.toNat < 2 ^ 31) :
    (path <<< 1 ||| n &&& 1) >>> 1 = path := by
  rw [← UInt32.toNat_inj, UInt32.toNat_shiftRight, toNat_path short]
  change (2 * path.toNat + n.toNat % 2) >>> 1 = _
  rw [Nat.shiftRight_eq_div_pow]
  omega

private theorem path_and_one
    {path n : UInt32} (short : path.toNat < 2 ^ 31) :
    (path <<< 1 ||| n &&& 1) &&& 1 ≠ 0 ↔ n.toNat % 2 ≠ 0 := by
  rw [Ne, ← UInt32.toNat_inj, UInt32.toNat_and, toNat_path short]
  change (2 * path.toNat + n.toNat % 2) &&& 1 ≠ 0 ↔ _
  rw [Nat.and_one_is_mod]
  omega

theorem Layout.traverse_pathLoop
    (layout : heap.Layout items count) (path k n : UInt32)
    (positive : 1 ≤ n.toNat) (within : n.toNat ≤ count + 1)
    (short : path.toNat < 2 ^ k.toNat)
    (fits : n.toNat * 2 ^ k.toNat < 2 ^ 32) :
    heap.traverse (pathLoop path k n).2.toNat (pathLoop path k n).1 .min
        .min =
      heap.traverse k.toNat path (linkTo items (n.toNat / 2))
        (linkTo items n.toNat) := by
  induction path, k, n using pathLoop.induct with
  | case1 path k n more inductionHypothesis =>
      have atLeast : 2 ≤ n.toNat := UInt32.le_iff_toNat_le.mp more
      have half : (n / 2).toNat = n.toNat / 2 := UInt32.toNat_div n 2
      have doubled : 2 * 2 ^ k.toNat < 2 ^ 32 :=
        Nat.lt_of_le_of_lt (Nat.mul_le_mul_right _ atLeast) fits
      have shortPath : path.toNat < 2 ^ 31 := by omega
      have few : k.toNat < 31 := by
        by_contra many
        have large : 2 ^ 31 ≤ 2 ^ k.toNat :=
          Nat.pow_le_pow_right (by omega) (Nat.not_lt.mp many)
        omega
      have next : (k + 1).toNat = k.toNat + 1 := by
        rw [UInt32.toNat_add]
        change (k.toNat + 1) % 2 ^ 32 = _
        omega
      have halfFits : n.toNat / 2 * (2 * 2 ^ k.toNat) < 2 ^ 32 := by
        have atMost := Nat.mul_le_mul_right (2 ^ k.toNat)
          (Nat.div_mul_le_self n.toNat 2)
        rw [← Nat.mul_assoc]
        omega
      have longer : 2 ^ (k + 1).toNat = 2 * 2 ^ k.toNat := by
        rw [next, pow_succ, Nat.mul_comm]
      have reached :=
        inductionHypothesis (by omega) (by omega)
          (by rw [longer, toNat_path shortPath]; omega)
          (by rw [longer, half]; exact halfFits)
      have found :
          heap.read (linkTo items (n.toNat / 2)) =
            some (items (n.toNat / 2)) := by
        rw [layout.read_linkTo (by omega) (by omega), nodeAt,
          if_pos (by omega)]
      have isLink :
          linkTo items n.toNat =
            if n.toNat % 2 = 0 then .left (items (n.toNat / 2))
            else .right (items (n.toNat / 2)) :=
        if_neg (by omega)
      rw [pathLoop, if_pos more, reached, next, half, traverse, found,
        isLink]
      simp only [path_shiftRight shortPath, path_and_one shortPath, ne_eq,
        ite_not]
  | case2 path k n more =>
      have isOne : n.toNat = 1 := by
        rw [UInt32.le_iff_toNat_le] at more
        change ¬ 2 ≤ n.toNat at more
        omega
      rw [pathLoop, if_neg more, isOne]
      rfl

/-- The loops at the beginning of `heap_insert` and of `heap_remove` find the
place of a number. -/
theorem Layout.traverse_path
    (layout : heap.Layout items count) {n : UInt32}
    (positive : 1 ≤ n.toNat) (within : n.toNat ≤ count + 1) :
    heap.traverse (pathLoop 0 0 n).2.toNat (pathLoop 0 0 n).1 .min .min =
      some (linkTo items (n.toNat / 2), linkTo items n.toNat) := by
  have fits : n.toNat * 2 ^ (0 : UInt32).toNat < 2 ^ 32 := by
    have bound := n.toNat_lt
    rw [UInt32.toNat_zero, pow_zero]
    omega
  exact layout.traverse_pathLoop 0 0 n positive within (by simp) fits

variable [DecidableEq Node]

/-! ## The last node -/

private theorem write_nodes
    (heap : Heap Node) (link : Link Node) (target : Option Node)
    (node : Node) :
    (heap.write link target).nodes node =
      { left :=
          if link = .left node then target else (heap.nodes node).left
        right :=
          if link = .right node then target else (heap.nodes node).right
        parent := (heap.nodes node).parent } := by
  cases link with
  | min => rfl
  | left other =>
      by_cases same : other = node
      · simp [write, setLeft, same]
      · have different : ¬ node = other := fun equal => same equal.symm
        simp [write, setLeft, update_nodes, same, different]
  | right other =>
      by_cases same : other = node
      · simp [write, setRight, same]
      · have different : ¬ node = other := fun equal => same equal.symm
        simp [write, setRight, update_nodes, same, different]

private theorem write_min
    (heap : Heap Node) (link : Link Node) (target : Option Node) :
    (heap.write link target).min =
      if link = .min then target else heap.min := by
  cases link <;> rfl

theorem write_nelts
    (heap : Heap Node) (link : Link Node) (target : Option Node) :
    (heap.write link target).nelts = heap.nelts := by
  cases link <;> rfl

omit [DecidableEq Node] in
private theorem linkTo_eq_min_iff (items : Nat → Node) (i : Nat) :
    linkTo items i = .min ↔ i ≤ 1 := by
  unfold linkTo
  split_ifs with isRoot <;> simp [isRoot]

omit [DecidableEq Node] in
theorem Layout.linkTo_eq_left_iff
    (layout : heap.Layout items count) {i j : Nat} (within : j / 2 ≤ count)
    (inRange : 1 ≤ i ∧ i ≤ count) :
    linkTo items j = .left (items i) ↔ j = 2 * i := by
  unfold linkTo
  split_ifs with isRoot even
  · simp only [false_iff]
    omega
  · rw [Link.left.injEq, layout.items_eq_iff (by omega) inRange]
    omega
  · simp only [false_iff]
    omega

omit [DecidableEq Node] in
theorem Layout.linkTo_eq_right_iff
    (layout : heap.Layout items count) {i j : Nat} (within : j / 2 ≤ count)
    (inRange : 1 ≤ i ∧ i ≤ count) :
    linkTo items j = .right (items i) ↔ j = 2 * i + 1 := by
  unfold linkTo
  split_ifs with isRoot even
  · simp only [false_iff]
    omega
  · simp only [false_iff]
    omega
  · rw [Link.right.injEq, layout.items_eq_iff (by omega) inRange]
    omega

/-- The last node is cut off. -/
theorem Layout.unlinked
    (layout : heap.Layout items count) (positive : 1 ≤ count) :
    ({ heap with nelts := heap.nelts - 1 }.write (linkTo items count)
      none).Layout items (count - 1) := by
  constructor
  · rw [write_min]
    simp only [linkTo_eq_min_iff, layout.min, nodeAt]
    split_ifs <;> first | rfl | omega
  · rw [write_nelts]
    change (heap.nelts - 1).toNat = count - 1
    have counted := layout.nelts
    have one : (1 : UInt32) ≤ heap.nelts := by
      rw [UInt32.le_iff_toNat_le, counted]
      exact positive
    rw [UInt32.toNat_sub_of_le _ _ one, counted]
    rfl
  · intro i atLeast atMost
    have inRange : 1 ≤ i ∧ i ≤ count := by omega
    rw [write_nodes]
    simp only [layout.nodes i inRange.1 inRange.2,
      layout.linkTo_eq_left_iff (Nat.div_le_self count 2) inRange,
      layout.linkTo_eq_right_iff (Nat.div_le_self count 2) inRange, nodeAt]
    congr 1 <;> split_ifs <;> first | rfl | omega
  · intro i j iPositive iAtMost jPositive jAtMost
    exact
      layout.injective i j iPositive (by omega) jPositive (by omega)

/-- A node is attached at the first free place. -/
theorem Layout.attached
    (layout : heap.Layout items count) {newnode : Node}
    (fresh : ∀ i, 1 ≤ i → i ≤ count → items i ≠ newnode)
    (fields :
      heap.nodes newnode =
        { parent := nodeAt items count ((count + 1) / 2) })
    (fits : count + 1 < 2 ^ 32) :
    Layout
      { heap.write (linkTo items (count + 1)) (some newnode) with
        nelts := heap.nelts + 1 }
      (Function.update items (count + 1) newnode) (count + 1) := by
  have isPlace : 1 ≤ count + 1 ∧ count + 1 ≤ count + 1 := by omega
  have within : (count + 1) / 2 ≤ count := by omega
  constructor
  · change (heap.write _ _).min = _
    rw [write_min, nodeAt_update items isPlace, layout.min]
    simp only [linkTo_eq_min_iff, nodeAt]
    split_ifs <;> first | rfl | omega
  · change (heap.nelts + 1).toNat = count + 1
    rw [UInt32.toNat_add, layout.nelts]
    exact Nat.mod_eq_of_lt fits
  · intro i atLeast atMost
    change (heap.write _ _).nodes _ = _
    rw [write_nodes]
    simp only [nodeAt_update items isPlace]
    by_cases isLast : i = count + 1
    · have elsewhere :
          linkTo items (count + 1) ≠ .left newnode ∧
            linkTo items (count + 1) ≠ .right newnode := by
        unfold linkTo
        split_ifs with isRoot even
        · simp
        · simpa using fresh _ (by omega) within
        · simpa using fresh _ (by omega) within
      rw [isLast, Function.update_self, fields, if_neg elsewhere.1,
        if_neg elsewhere.2]
      simp only [nodeAt]
      congr 1 <;> split_ifs <;> first | rfl | omega
    · have inRange : 1 ≤ i ∧ i ≤ count := by omega
      rw [Function.update_of_ne isLast]
      simp only [layout.nodes i inRange.1 inRange.2,
        layout.linkTo_eq_left_iff within inRange,
        layout.linkTo_eq_right_iff within inRange, nodeAt]
      congr 1 <;> split_ifs <;> first | rfl | omega
  · apply update_injective
    · intro j k jPositive _ kPositive _ _ _
      exact
        layout.injective j k jPositive (by omega) kPositive (by omega)
    · intro j jPositive _ _
      exact fresh j jPositive (by omega)

/-- The second half of `heap_remove`, up to the loops: a node takes the place
of another one. -/
def replace (heap : Heap Node) (node child : Node) : Heap Node :=
  let heap := heap.update child fun _ => heap.nodes node
  let heap := heap.adopt (heap.nodes child).left child
  let heap := heap.adopt (heap.nodes child).right child
  heap.redirect (heap.nodes node).parent node child

theorem Layout.replaced
    (layout : heap.Layout items count) {i : Nat}
    (inRange : 1 ≤ i ∧ i ≤ count) {child : Node}
    (fresh : ∀ j, 1 ≤ j → j ≤ count → items j ≠ child) :
    (heap.replace (items i) child).Layout (Function.update items i child)
      count := by
  have different : items i ≠ child := fresh i inRange.1 inRange.2
  have fields := layout.nodes i inRange.1 inRange.2
  let adopted :=
    ((heap.update child fun _ => heap.nodes (items i)).adopt
      (nodeAt items count (2 * i)) child).adopt
        (nodeAt items count (2 * i + 1)) child
  have aboveNode :
      (adopted.nodes (items i)).parent = nodeAt items count (i / 2) := by
    simp only [adopted, adopt_parent, update_nodes,
      layout.nodeAt_eq_some_iff _ inRange]
    rw [if_neg (by omega), if_neg (by omega), if_neg different, fields]
  have isReplaced :
      heap.replace (items i) child =
        adopted.redirect (nodeAt items count (i / 2)) (items i) child := by
    rw [← aboveNode]
    simp only [replace, update_nodes_self, adopt_right, fields, adopted]
  rw [isReplaced]
  constructor
  · have sameMin : adopted.min = heap.min := by
      simp only [adopted, adopt_min]
      rfl
    rw [redirect_min, sameMin, layout.min, nodeAt_update items inRange]
    simp only [nodeAt]
    split_ifs <;> first | rfl | omega | simp_all
  · have sameNelts : adopted.nelts = heap.nelts := by
      simp only [adopted, adopt_nelts]
      rfl
    rw [redirect_nelts, sameNelts, layout.nelts]
  · intro j positive atMost
    have jInRange : 1 ≤ j ∧ j ≤ count := ⟨positive, atMost⟩
    rw [redirect_nodes]
    simp only [adopted, adopt_left, adopt_right, adopt_parent, update_nodes,
      nodeAt_update items inRange]
    by_cases isPlace : j = i
    · have absent := nodeAt_ne_some fresh
      rw [isPlace, Function.update_self, fields]
      simp only [absent, false_and, if_false, if_true]
      congr 1 <;> split_ifs <;> first | rfl | omega
    · have notChild : items j ≠ child := fresh j positive atMost
      rw [Function.update_of_ne isPlace, if_neg notChild]
      simp only [layout.nodes j positive atMost,
        layout.nodeAt_eq_some_iff _ jInRange,
        layout.nodeAt_eq_some_iff _ inRange, ne_eq]
      congr 1 <;> split_ifs <;> first | rfl | omega
  · apply update_injective
    · intro j k jPositive jAtMost kPositive kAtMost _ _
      exact layout.injective j k jPositive jAtMost kPositive kAtMost
    · intro j jPositive jAtMost _
      exact fresh j jPositive jAtMost

end Heap

end DkPull.Libuv
