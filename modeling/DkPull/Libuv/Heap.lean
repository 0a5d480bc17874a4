import Mathlib.Data.Option.Basic
import Mathlib.Logic.Function.Basic

/-!
# The heap of libuv

`heap-inl.h` keeps the active timers of a loop in a binary tree that is linked
by pointers in both directions.  The next free place of the tree, and the last
one that is taken, is found from the number of elements alone: its binary
digits tell whether to go left or right.

A pointer is an `Option`, and to follow a null pointer is to get stuck.  So is
to run out of turns of a loop that goes up or down the tree.
-/

namespace DkPull.Libuv

structure HeapNode (Node : Type) where
  left : Option Node := none
  right : Option Node := none
  parent : Option Node := none
  deriving DecidableEq, Repr

/-- A `struct heap` and the memory that its nodes lie in. -/
structure Heap (Node : Type) where
  nodes : Node → HeapNode Node
  min : Option Node
  nelts : UInt32

/-- The places that a `struct heap_node**` points to. -/
inductive Link (Node : Type) where
  | min
  | left (node : Node)
  | right (node : Node)
  deriving DecidableEq, Repr

namespace Heap

variable {Node : Type}

def heapInit (heap : Heap Node) : Heap Node :=
  { heap with min := none, nelts := 0 }

def heapMin (heap : Heap Node) : Option Node :=
  heap.min

/-- Read through a pointer to a pointer. -/
def read (heap : Heap Node) : Link Node → Option Node
  | .min => heap.min
  | .left node => (heap.nodes node).left
  | .right node => (heap.nodes node).right

/-- The path to the place number `n` behind some other path, and its length:
the binary digits of `n` behind the first one, in reversed order. -/
def pathLoop (path k n : UInt32) : UInt32 × UInt32 :=
  if 2 ≤ n then pathLoop (path <<< 1 ||| n &&& 1) (k + 1) (n / 2)
  else (path, k)
termination_by n.toNat
decreasing_by
  rename_i more
  rw [UInt32.le_iff_toNat_le] at more
  rw [UInt32.toNat_div]
  exact Nat.div_lt_self (Nat.lt_of_lt_of_le Nat.zero_lt_two more) Nat.one_lt_two

/-- Follow a path.  The result is the last pair of a parent and a child. -/
def traverse (heap : Heap Node) :
    Nat → UInt32 → Link Node → Link Node → Option (Link Node × Link Node)
  | 0, _, parent, child => some (parent, child)
  | k + 1, path, _, child =>
      match heap.read child with
      | none => none
      | some node =>
          traverse heap k (path >>> 1) child
            (if path &&& 1 ≠ 0 then .right node else .left node)

variable [DecidableEq Node]

def update (heap : Heap Node) (node : Node)
    (write : HeapNode Node → HeapNode Node) : Heap Node :=
  { heap with
    nodes := Function.update heap.nodes node (write (heap.nodes node)) }

def setLeft (heap : Heap Node) (node : Node) (left : Option Node) :
    Heap Node :=
  heap.update node fun fields => { fields with left := left }

def setRight (heap : Heap Node) (node : Node) (right : Option Node) :
    Heap Node :=
  heap.update node fun fields => { fields with right := right }

def setParent (heap : Heap Node) (node : Node) (parent : Option Node) :
    Heap Node :=
  heap.update node fun fields => { fields with parent := parent }

/-- Write through a pointer to a pointer. -/
def write (heap : Heap Node) (link : Link Node) (target : Option Node) :
    Heap Node :=
  match link with
  | .min => { heap with min := target }
  | .left node => heap.setLeft node target
  | .right node => heap.setRight node target

/-- `if (node != NULL) node->parent = parent`. -/
def adopt (heap : Heap Node) (node : Option Node) (parent : Node) :
    Heap Node :=
  match node with
  | none => heap
  | some node => heap.setParent node (some parent)

/-- Let the parent of a node point to another node instead. -/
def redirect (heap : Heap Node) (parent : Option Node) (node other : Node) :
    Heap Node :=
  match parent with
  | none => { heap with min := some other }
  | some parent =>
      if (heap.nodes parent).left = some node then
        heap.setLeft parent (some other)
      else heap.setRight parent (some other)

def heapNodeSwap (heap : Heap Node) (parent child : Node) : Heap Node :=
  let t := heap.nodes parent
  let heap := heap.update parent fun _ => heap.nodes child
  let heap := heap.update child fun _ => t
  let heap := heap.setParent parent (some child)
  let (heap, sibling) :=
    if (heap.nodes child).left = some child then
      (heap.setLeft child (some parent), (heap.nodes child).right)
    else (heap.setRight child (some parent), (heap.nodes child).left)
  let heap := heap.adopt sibling child
  let heap := heap.adopt (heap.nodes parent).left parent
  let heap := heap.adopt (heap.nodes parent).right parent
  heap.redirect (heap.nodes child).parent parent child

variable (lessThan : Node → Node → Bool)

/-- The loop that walks up the tree. -/
def walkUp (node : Node) : Nat → Heap Node → Option (Heap Node)
  | 0, _ => none
  | turns + 1, heap =>
      match (heap.nodes node).parent with
      | none => some heap
      | some parent =>
          if lessThan node parent then
            walkUp node turns (heap.heapNodeSwap parent node)
          else some heap

/-- `if (other != NULL && less_than(other, smallest)) smallest = other`. -/
def smaller (smallest : Node) (other : Option Node) : Node :=
  match other with
  | none => smallest
  | some other => if lessThan other smallest then other else smallest

/-- The loop that walks down the subtree. -/
def walkDown (child : Node) : Nat → Heap Node → Option (Heap Node)
  | 0, _ => none
  | turns + 1, heap =>
      let fields := heap.nodes child
      let smallest :=
        smaller lessThan (smaller lessThan child fields.left) fields.right
      if smallest = child then some heap
      else walkDown child turns (heap.heapNodeSwap child smallest)

def heapInsert (turns : Nat) (heap : Heap Node) (newnode : Node) :
    Option (Heap Node) := do
  let heap := heap.update newnode fun _ => {}
  let (path, k) := pathLoop 0 0 (1 + heap.nelts)
  let (parent, child) ← heap.traverse k.toNat path .min .min
  let heap := heap.setParent newnode (heap.read parent)
  let heap := heap.write child (some newnode)
  let heap := { heap with nelts := heap.nelts + 1 }
  walkUp lessThan newnode turns heap

def heapRemove (turns : Nat) (heap : Heap Node) (node : Node) :
    Option (Heap Node) := do
  if heap.nelts = 0 then
    return heap
  let (path, k) := pathLoop 0 0 heap.nelts
  let (_, max) ← heap.traverse k.toNat path .min .min
  let heap := { heap with nelts := heap.nelts - 1 }
  let child ← heap.read max
  let heap := heap.write max none
  if child = node then
    if heap.min = some child then
      return { heap with min := none }
    return heap
  let heap := heap.update child fun _ => heap.nodes node
  let heap := heap.adopt (heap.nodes child).left child
  let heap := heap.adopt (heap.nodes child).right child
  let heap := heap.redirect (heap.nodes node).parent node child
  let heap ← walkDown lessThan child turns heap
  walkUp lessThan child turns heap

end Heap

end DkPull.Libuv
