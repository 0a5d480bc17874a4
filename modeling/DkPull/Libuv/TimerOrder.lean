import DkPull.Libuv.Lifecycle
import Mathlib.Algebra.Group.Nat.Defs
import Mathlib.Data.Prod.Lex

/-!
# The order of timers

Active timers are ordered by their timeouts, and those with the same timeout by
the order in which they were started.  Every start takes another number from
the counter of the loop, so as long as the counter does not overflow no two
active timers are equal in this order and the heap has one least member.
-/

namespace DkPull.Libuv

/-- What `timer_less_than` compares. -/
def Handle.key (timer : Handle) : ℕ ×ₗ ℕ :=
  toLex (timer.timeout.toNat, timer.startId.toNat)

theorem timerLessThan_iff (a b : Handle) :
    Loop.timerLessThan a b = true ↔ a.key < b.key := by
  rw [Handle.key, Handle.key, Prod.Lex.toLex_lt_toLex, Loop.timerLessThan]
  by_cases less : a.timeout < b.timeout
  · rw [if_pos less]
    exact iff_of_true rfl (.inl (UInt64.lt_iff_toNat_lt.mp less))
  · rw [if_neg less]
    rw [UInt64.lt_iff_toNat_lt] at less
    by_cases greater : b.timeout < a.timeout
    · rw [if_pos greater]
      rw [UInt64.lt_iff_toNat_lt] at greater
      refine iff_of_false Bool.false_ne_true ?_
      dsimp only
      omega
    · rw [if_neg greater, decide_eq_true_iff]
      rw [UInt64.lt_iff_toNat_lt] at greater ⊢
      dsimp only
      omega

namespace Loop

variable {loop next : Loop} {taken : List Nat} {handle : Nat}

theorem heapMin_eq_none_iff {handles : Nat → Handle} {heap : List Nat} :
    heapMin handles heap = none ↔ heap = [] := by
  cases heap with
  | nil => exact iff_of_true rfl rfl
  | cons first rest =>
      refine iff_of_false ?_ (List.cons_ne_nil first rest)
      unfold heapMin
      split
      · exact Option.some_ne_none first
      · split <;> exact Option.some_ne_none _

theorem heapMin_le
    {handles : Nat → Handle} {heap : List Nat} {least other : Nat}
    (isLeast : heapMin handles heap = some least) (member : other ∈ heap) :
    (handles least).key ≤ (handles other).key := by
  induction heap generalizing least with
  | nil => cases member
  | cons first rest inductionHypothesis =>
      unfold heapMin at isLeast
      rcases List.mem_cons.mp member with rfl | later
      · split at isLeast
        · cases isLeast
          exact le_refl _
        · rename_i found _
          split at isLeast
          · cases isLeast
            exact le_refl _
          · rename_i notLess
            cases isLeast
            rw [timerLessThan_iff] at notLess
            exact not_lt.mp notLess
      · split at isLeast
        · rename_i noneFound
          rw [heapMin_eq_none_iff] at noneFound
          rw [noneFound] at later
          cases later
        · rename_i found isFound
          have foundLe := inductionHypothesis isFound later
          split at isLeast
          · rename_i less
            cases isLeast
            rw [timerLessThan_iff] at less
            exact less.le.trans foundLe
          · cases isLeast
            exact foundLe

structure Ordered (loop : Loop) : Prop where
  counted :
    ∀ handle ∈ loop.timerHeap,
      (loop.handles handle).startId.toNat < loop.timerCounter.toNat
  distinct :
    ∀ first ∈ loop.timerHeap, ∀ second ∈ loop.timerHeap,
      (loop.handles first).startId = (loop.handles second).startId →
        first = second

theorem Ordered.init (hrtime : UInt64) : (Loop.init hrtime).Ordered where
  counted := by simp [Loop.init]
  distinct := by simp [Loop.init]

/-- There is one least member only. -/
theorem Ordered.heapMin_eq_some
    (ordered : loop.Ordered) (member : handle ∈ loop.timerHeap)
    (least :
      ∀ other ∈ loop.timerHeap,
        (loop.handles handle).key ≤ (loop.handles other).key) :
    heapMin loop.handles loop.timerHeap = some handle := by
  cases found : heapMin loop.handles loop.timerHeap with
  | none =>
      rw [heapMin_eq_none_iff] at found
      rw [found] at member
      cases member
  | some other =>
      have otherMember := mem_of_heapMin found
      have same :=
        le_antisymm (heapMin_le found member) (least other otherMember)
      have sameStart :
          (loop.handles other).startId.toNat =
            (loop.handles handle).startId.toNat :=
        congrArg (fun key => (ofLex key).2) same
      rw [UInt64.toNat_inj] at sameStart
      rw [ordered.distinct other otherMember handle member sameStart]

private theorem mem_of_mem_timerStop
    {other : Nat} (member : other ∈ (loop.timerStop handle).timerHeap) :
    other ∈ loop.timerHeap := by
  unfold timerStop at member
  split at member
  · exact List.mem_of_mem_erase member
  · exact member

@[simp]
theorem timerStop_timerCounter (loop : Loop) (handle : Nat) :
    (loop.timerStop handle).timerCounter = loop.timerCounter := by
  unfold timerStop
  split <;> rfl

private theorem timerStop_startId (loop : Loop) (handle other : Nat) :
    ((loop.timerStop handle).handles other).startId =
      (loop.handles other).startId := by
  rw [timerStop_handles]
  by_cases same : other = handle
  · rw [same, Function.update_self]
  · rw [Function.update_of_ne same]

theorem Ordered.timerStop (ordered : loop.Ordered) (handle : Nat) :
    (loop.timerStop handle).Ordered where
  counted := by
    intro other member
    rw [timerStop_startId, timerStop_timerCounter]
    exact ordered.counted other (mem_of_mem_timerStop member)
  distinct := by
    intro first firstMember second secondMember
    rw [timerStop_startId, timerStop_startId]
    exact
      ordered.distinct first (mem_of_mem_timerStop firstMember) second
        (mem_of_mem_timerStop secondMember)

theorem Ordered.activate
    (ordered : loop.Ordered) (absent : handle ∉ loop.timerHeap)
    (room : loop.timerCounter.toNat + 1 < 2 ^ 64)
    (timeout repeatTime : UInt64) :
    (loop.activate handle timeout repeatTime).Ordered := by
  have counter :
      (loop.activate handle timeout repeatTime).timerCounter.toNat =
        loop.timerCounter.toNat + 1 := by
    change (loop.timerCounter + 1).toNat = _
    rw [UInt64.toNat_add]
    exact Nat.mod_eq_of_lt room
  have started :
      ((loop.activate handle timeout repeatTime).handles handle).startId =
        loop.timerCounter := by
    rw [activate_handles, Function.update_self]
  have unchanged :
      ∀ other ∈ loop.timerHeap,
        ((loop.activate handle timeout repeatTime).handles other).startId =
          (loop.handles other).startId := by
    intro other member
    have different : other ≠ handle := by
      rintro rfl
      exact absent member
    rw [activate_handles, Function.update_of_ne different]
  have earlier :
      ∀ other ∈ loop.timerHeap,
        (loop.handles other).startId ≠ loop.timerCounter := by
    intro other member same
    have before := ordered.counted other member
    rw [same] at before
    exact Nat.lt_irrefl _ before
  constructor
  · intro other member
    rw [counter]
    rcases List.mem_cons.mp member with rfl | member
    · rw [started]
      exact Nat.lt_succ_self _
    · rw [unchanged other member]
      exact Nat.lt_succ_of_lt (ordered.counted other member)
  · intro first firstMember second secondMember same
    rcases List.mem_cons.mp firstMember with firstIs | firstMember
    · rcases List.mem_cons.mp secondMember with secondIs | secondMember
      · rw [firstIs, secondIs]
      · rw [firstIs, started, unchanged second secondMember] at same
        exact absurd same.symm (earlier second secondMember)
    · rcases List.mem_cons.mp secondMember with secondIs | secondMember
      · rw [secondIs, started, unchanged first firstMember] at same
        exact absurd same (earlier first firstMember)
      · rw [unchanged first firstMember, unchanged second secondMember]
          at same
        exact ordered.distinct first firstMember second secondMember same

end Loop

end DkPull.Libuv
