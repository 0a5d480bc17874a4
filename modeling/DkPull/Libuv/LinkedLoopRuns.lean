import DkPull.Libuv.LinkedLoop
import Mathlib.Data.List.Perm.Subperm

/-!
# The linked heap answers like the list of its members

A loop with a linked heap represents a loop with a list when the heap holds the
members of the list in their order.  Every function keeps this, and so does
every sequence of calls.  The bounds on the number of handles and of calls are
those of the counters of libuv.
-/

namespace DkPull.Libuv

open DkPull.Reactive

private theorem Loop.update_handles
    (loop : Loop) (handle other : Nat) (write : Handle → Handle) :
    (loop.update handle write).handles other =
      if other = handle then write (loop.handles handle)
      else loop.handles other :=
  Function.update_apply _ _ _ _

namespace LinkedLoop

/-- The handles of a loop are known by fewer numbers than the heap can count. -/
def handleLimit : Nat := 2 ^ 32 - 1

/-- The heap holds the members of the list, which are the active handles. -/
structure Represents (linked : LinkedLoop) (loop : Loop) : Prop where
  fields : linked.toLoop loop.timerHeap = loop
  nodup : loop.timerHeap.Nodup
  within : ∀ handle ∈ loop.timerHeap, handle < handleLimit
  active :
    ∀ handle,
      handle ∈ loop.timerHeap ↔ (loop.handles handle).active = true
  ordered : loop.Ordered
  holds :
    linked.timerHeap.Holds (fun handle => (loop.handles handle).key)
      { handle | handle ∈ loop.timerHeap }
  nelts : linked.timerHeap.nelts.toNat = loop.timerHeap.length
  counted : loop.activeHandles = loop.timerHeap.length

variable {linked : LinkedLoop} {loop : Loop} {handle : Nat}

theorem Represents.eq_toLoop (represents : linked.Represents loop) :
    ∃ members, loop = linked.toLoop members :=
  ⟨loop.timerHeap, represents.fields.symm⟩

theorem Represents.init (nodes : Nat → HeapNode Nat) (hrtime : UInt64) :
    (LinkedLoop.init nodes hrtime).Represents (Loop.init hrtime) where
  fields := rfl
  nodup := List.nodup_nil
  within := by simp [Loop.init]
  active := by simp [Loop.init]
  ordered := .init hrtime
  holds := by
    refine ⟨fun _ => 0, 0, ⟨rfl, rfl, ?_, ?_⟩, ?_, ?_⟩
    · intro i positive atMost
      omega
    · intro i j positive atMost
      omega
    · intro i atLeast inRange
      omega
    · ext handle
      refine iff_of_false ?_ List.not_mem_nil
      rintro ⟨i, positive, atMost, -⟩
      omega
  nelts := rfl
  counted := rfl

/-- Only the handles, their counter and the heap matter. -/
theorem Represents.transfer
    {after : LinkedLoop} {next : Loop}
    (represents : linked.Represents loop)
    (fields : after.toLoop next.timerHeap = next)
    (handles : next.handles = loop.handles)
    (counter : next.timerCounter = loop.timerCounter)
    (members : next.timerHeap = loop.timerHeap)
    (count : next.activeHandles = loop.activeHandles)
    (heap : after.timerHeap = linked.timerHeap) :
    after.Represents next where
  fields := fields
  nodup := by rw [members]; exact represents.nodup
  within := by rw [members]; exact represents.within
  active := by rw [members, handles]; exact represents.active
  ordered :=
    { counted := by
        rw [members, handles, counter]; exact represents.ordered.counted
      distinct := by
        rw [members, handles]; exact represents.ordered.distinct }
  holds := by rw [members, handles, heap]; exact represents.holds
  nelts := by rw [members, heap]; exact represents.nelts
  counted := by rw [members, count]; exact represents.counted

/-- Writing to a handle does not matter as long as it stays in its place. -/
theorem Represents.update
    (represents : linked.Represents loop) {write : Handle → Handle}
    (sameActive :
      (write (loop.handles handle)).active = (loop.handles handle).active)
    (sameKey :
      handle ∈ loop.timerHeap →
        (write (loop.handles handle)).key = (loop.handles handle).key) :
    (linked.update handle write).Represents (loop.update handle write) := by
  have keys :
      ∀ other ∈ loop.timerHeap,
        ((loop.update handle write).handles other).key =
          (loop.handles other).key := by
    intro other member
    rw [Loop.update_handles]
    split_ifs with same
    · subst same
      exact sameKey member
    · rfl
  have startIds :
      ∀ other ∈ loop.timerHeap,
        ((loop.update handle write).handles other).startId =
          (loop.handles other).startId := by
    intro other member
    rw [← UInt64.toNat_inj]
    exact congrArg (fun key => (ofLex key).2) (keys other member)
  have counted := represents.ordered.counted
  have distinct := represents.ordered.distinct
  have holds := represents.holds.congr keys
  constructor
  case fields =>
    obtain ⟨members, rfl⟩ := represents.eq_toLoop
    rfl
  case nodup => exact represents.nodup
  case within => exact represents.within
  case active =>
    intro other
    have isActive := represents.active other
    rw [Loop.update_handles]
    split_ifs with same
    · subst same
      rw [sameActive]
      exact isActive
    · exact isActive
  case ordered =>
    constructor
    · intro other member
      rw [startIds other member]
      exact counted other member
    · intro first firstMember second secondMember same
      rw [startIds first firstMember, startIds second secondMember] at same
      exact distinct first firstMember second secondMember same
  case holds => exact holds
  case nelts => exact represents.nelts
  case counted => exact represents.counted

theorem Represents.holds_active (represents : linked.Represents loop) :
    linked.timerHeap.Holds (fun handle => (loop.handles handle).key)
      { handle | (loop.handles handle).active = true } := by
  have sameMembers :
      { handle | handle ∈ loop.timerHeap } =
        { handle | (loop.handles handle).active = true } := by
    ext handle
    exact represents.active handle
  rw [← sameMembers]
  exact represents.holds

/-- The counter of the active handles has not wrapped. -/
theorem Represents.toNat_activeHandles
    (represents : linked.Represents loop) :
    linked.activeHandles.toNat = loop.timerHeap.length :=
  (congrArg Loop.activeHandles represents.fields).trans represents.counted

private theorem lessThan_iff (represents : linked.Represents loop) (a b : Nat) :
    linked.lessThan a b = true ↔
      (loop.handles a).key < (loop.handles b).key := by
  obtain ⟨members, rfl⟩ := represents.eq_toLoop
  exact timerLessThan_iff _ _

theorem Represents.timerStop
    (represents : linked.Represents loop) (handle : Nat) :
    ∃ next,
      linked.timerStop handle = some next ∧
        next.Represents (loop.timerStop handle) := by
  have sameHandles : linked.handles = loop.handles :=
    congrArg Loop.handles represents.fields
  by_cases active : (loop.handles handle).active = true
  · have member := (represents.active handle).mpr active
    have fits : linked.timerHeap.nelts.toNat < 2 ^ turns :=
      linked.timerHeap.nelts.toNat_lt
    obtain ⟨timerHeap, removed, holds, counted⟩ :=
      represents.holds.heapRemove (lessThan_iff represents) member fits
    have positive : (1 : UInt32) ≤ linked.timerHeap.nelts := by
      rw [UInt32.le_iff_toNat_le, represents.nelts]
      exact List.length_pos_of_mem member
    have busy : (1 : UInt32) ≤ linked.activeHandles := by
      rw [UInt32.le_iff_toNat_le, represents.toNat_activeHandles]
      exact List.length_pos_of_mem member
    have oneFewer :
        (linked.activeHandles - 1).toNat = linked.activeHandles.toNat - 1 :=
      UInt32.toNat_sub_of_le _ _ busy
    have ordered := represents.ordered.timerStop handle
    have stopped :
        loop.timerStop handle =
          { loop.update handle fun timer => { timer with active := false } with
            timerHeap := loop.timerHeap.erase handle
            activeHandles := loop.activeHandles - 1 } :=
      if_pos active
    refine
      ⟨{ linked.update handle fun timer => { timer with active := false } with
          timerHeap := timerHeap
          activeHandles := linked.activeHandles - 1 }, ?_, ?_⟩
    · rw [LinkedLoop.timerStop, sameHandles, if_pos active, removed]
      rfl
    · rw [stopped] at ordered ⊢
      constructor
      case fields =>
        obtain ⟨members, rfl⟩ := represents.eq_toLoop
        simp only [toLoop, LinkedLoop.update, Loop.update, oneFewer]
      case nodup => exact represents.nodup.erase handle
      case within =>
        intro other left
        exact represents.within other (List.mem_of_mem_erase left)
      case active =>
        intro other
        have isActive := represents.active other
        change other ∈ loop.timerHeap.erase handle ↔ _
        rw [represents.nodup.mem_erase_iff, Loop.update_handles]
        by_cases same : other = handle
        · simp [same]
        · simp [same, isActive]
      case ordered => exact ordered
      case holds =>
        have sameMembers :
            { other | other ∈ loop.timerHeap.erase handle } =
              { other | other ∈ loop.timerHeap } \ {handle} := by
          ext other
          rw [Set.mem_ofPred_eq, represents.nodup.mem_erase_iff, and_comm]
          rfl
        rw [← sameMembers] at holds
        apply holds.congr
        intro other _
        rw [Loop.update_handles]
        split_ifs with same
        · rw [same]
          rfl
        · rfl
      case nelts =>
        change timerHeap.nelts.toNat = (loop.timerHeap.erase handle).length
        rw [counted, UInt32.toNat_sub_of_le _ _ positive, represents.nelts,
          List.length_erase_of_mem member]
        rfl
      case counted =>
        change loop.activeHandles - 1 = (loop.timerHeap.erase handle).length
        rw [represents.counted, List.length_erase_of_mem member]
  · have stopped : loop.timerStop handle = loop := if_neg active
    rw [stopped]
    refine ⟨linked, ?_, represents⟩
    rw [LinkedLoop.timerStop, sameHandles, if_neg active]

theorem Represents.room
    (represents : linked.Represents loop) (absent : handle ∉ loop.timerHeap)
    (inRange : handle < handleLimit) :
    loop.timerHeap.length + 1 < 2 ^ 32 := by
  have nodup : (handle :: loop.timerHeap).Nodup :=
    List.nodup_cons.mpr ⟨absent, represents.nodup⟩
  have subset : handle :: loop.timerHeap ⊆ List.range handleLimit := by
    intro other member
    rw [List.mem_range]
    rcases List.mem_cons.mp member with rfl | member
    · exact inRange
    · exact represents.within other member
  have atMost := (nodup.subperm subset).length_le
  rw [List.length_cons, List.length_range, handleLimit] at atMost
  omega

/-- What `uv_timer_start` writes to a handle before it enters the heap. -/
def prepare
    (loop : LinkedLoop) (handle : Nat) (timeout repeatTime : UInt64) :
    LinkedLoop :=
  { loop.update handle fun timer =>
      { timer with
        timerCb := true
        timeout := Loop.clampedTimeout loop.time timeout
        repeatTime := repeatTime
        startId := loop.timerCounter } with
    timerCounter := loop.timerCounter + 1 }

private theorem timerStart_of_open
    (isOpen : (linked.handles handle).isClosing = false)
    (timeout repeatTime : UInt64) :
    linked.timerStart handle timeout repeatTime =
      (linked.timerStop handle).bind fun stopped =>
        let prepared := stopped.prepare handle timeout repeatTime
        (stopped.timerHeap.heapInsert prepared.lessThan turns handle).bind
          fun timerHeap =>
            some
              (0,
                { prepared.update handle
                    fun timer => { timer with active := true } with
                  timerHeap := timerHeap
                  activeHandles := stopped.activeHandles + 1 }) := by
  rw [LinkedLoop.timerStart, isOpen]
  rfl

theorem Represents.activate
    (represents : linked.Represents loop)
    (inactive : (loop.handles handle).active = false)
    (inRange : handle < handleLimit)
    (room : loop.timerCounter.toNat + 1 < 2 ^ 64)
    (timeout repeatTime : UInt64) :
    ∃ timerHeap,
      linked.timerHeap.heapInsert
          (linked.prepare handle timeout repeatTime).lessThan turns handle =
        some timerHeap ∧
      Represents
        { (linked.prepare handle timeout repeatTime).update handle
            fun timer => { timer with active := true } with
          timerHeap := timerHeap
          activeHandles := linked.activeHandles + 1 }
        (loop.activate handle timeout repeatTime) := by
  have absent : handle ∉ loop.timerHeap := by
    rw [represents.active handle, inactive]
    exact Bool.false_ne_true
  have heapRoom := represents.room absent inRange
  let write := fun timer : Handle =>
    { timer with
      timerCb := true
      timeout := Loop.clampedTimeout loop.time timeout
      repeatTime := repeatTime
      startId := loop.timerCounter }
  have prepared :
      (linked.update handle write).Represents (loop.update handle write) :=
    represents.update rfl fun member => absurd member absent
  have counted := represents.nelts
  have oneMore :
      (linked.activeHandles + 1).toNat = linked.activeHandles.toNat + 1 := by
    rw [UInt32.toNat_add, represents.toNat_activeHandles]
    exact Nat.mod_eq_of_lt heapRoom
  have nodeRoom : linked.timerHeap.nelts.toNat + 1 < 2 ^ 32 := by
    rw [counted]
    exact heapRoom
  have fits : linked.timerHeap.nelts.toNat + 1 < 2 ^ turns := nodeRoom
  obtain ⟨timerHeap, inserted, holds, heapCounted⟩ :=
    prepared.holds.heapInsert (lessThan_iff prepared) absent nodeRoom fits
  have ordered := represents.ordered.activate absent room timeout repeatTime
  refine ⟨timerHeap, ?_, ?_⟩
  · obtain ⟨members, rfl⟩ := represents.eq_toLoop
    exact inserted
  · constructor
    case fields =>
      obtain ⟨members, rfl⟩ := represents.eq_toLoop
      simp [toLoop, Loop.activate, LinkedLoop.update, Loop.update, prepare,
        oneMore]
    case nodup => exact List.nodup_cons.mpr ⟨absent, represents.nodup⟩
    case within =>
      intro other member
      rcases List.mem_cons.mp member with rfl | member
      · exact inRange
      · exact represents.within other member
    case active =>
      intro other
      have isActive := represents.active other
      rw [Loop.activate_handles, Function.update_apply]
      change other ∈ handle :: loop.timerHeap ↔ _
      rw [List.mem_cons]
      split_ifs with same
      · exact iff_of_true (.inl same) rfl
      · rw [or_iff_right same]
        exact isActive
    case ordered => exact ordered
    case holds =>
      have sameMembers :
          { other | other ∈ handle :: loop.timerHeap } =
            insert handle { other | other ∈ loop.timerHeap } := by
        ext other
        rw [Set.mem_ofPred_eq, List.mem_cons]
        rfl
      change timerHeap.Holds _ { other | other ∈ handle :: loop.timerHeap }
      rw [sameMembers]
      apply holds.congr
      intro other _
      rw [Loop.activate_handles, Function.update_apply, Loop.update_handles]
      split_ifs <;> rfl
    case nelts =>
      change timerHeap.nelts.toNat = loop.timerHeap.length + 1
      change timerHeap.nelts = linked.timerHeap.nelts + 1 at heapCounted
      rw [heapCounted, UInt32.toNat_add, counted]
      exact Nat.mod_eq_of_lt heapRoom
    case counted => exact congrArg (· + 1) represents.counted

theorem Represents.timerStart
    (represents : linked.Represents loop) (inRange : handle < handleLimit)
    (room : loop.timerCounter.toNat + 1 < 2 ^ 64)
    (timeout repeatTime : UInt64) :
    ∃ next,
      linked.timerStart handle timeout repeatTime =
          some ((loop.timerStart handle timeout repeatTime).1, next) ∧
        next.Represents (loop.timerStart handle timeout repeatTime).2 := by
  have sameHandles : linked.handles = loop.handles :=
    congrArg Loop.handles represents.fields
  cases isClosing : (loop.handles handle).isClosing with
  | true =>
      rw [LinkedLoop.timerStart, Loop.timerStart, sameHandles, isClosing]
      exact ⟨linked, rfl, represents⟩
  | false =>
      obtain ⟨stopped, stops, stoppedRepresents⟩ :=
        represents.timerStop handle
      have inactive :
          ((loop.timerStop handle).handles handle).active = false := by simp
      have stoppedRoom :
          (loop.timerStop handle).timerCounter.toNat + 1 < 2 ^ 64 := by
        rw [Loop.timerStop_timerCounter]
        exact room
      obtain ⟨timerHeap, inserted, started⟩ :=
        stoppedRepresents.activate inactive inRange stoppedRoom timeout
          repeatTime
      rw [Loop.timerStart_of_open isClosing]
      refine ⟨_, ?_, started⟩
      rw [timerStart_of_open (by rw [sameHandles]; exact isClosing), stops,
        Option.bind_some]
      dsimp only
      rw [inserted, Option.bind_some]

theorem Represents.timerAgain
    (represents : linked.Represents loop) (inRange : handle < handleLimit)
    (room : loop.timerCounter.toNat + 1 < 2 ^ 64) :
    ∃ next,
      linked.timerAgain handle = some ((loop.timerAgain handle).1, next) ∧
        next.Represents (loop.timerAgain handle).2 := by
  have sameHandles : linked.handles = loop.handles :=
    congrArg Loop.handles represents.fields
  rw [LinkedLoop.timerAgain, Loop.timerAgain, sameHandles]
  by_cases callable : (loop.handles handle).timerCb = true
  · by_cases repeats : ((loop.handles handle).repeatTime != 0) = true
    · obtain ⟨stopped, stops, stoppedRepresents⟩ :=
        represents.timerStop handle
      have stoppedRoom :
          (loop.timerStop handle).timerCounter.toNat + 1 < 2 ^ 64 := by
        rw [Loop.timerStop_timerCounter]
        exact room
      obtain ⟨next, starts, nextRepresents⟩ :=
        stoppedRepresents.timerStart inRange stoppedRoom
          (loop.handles handle).repeatTime (loop.handles handle).repeatTime
      simp only [callable, repeats, stops, starts, Option.bind_eq_bind,
        Option.bind_some, Bool.not_true, Bool.false_eq_true, if_false,
        if_true]
      exact ⟨next, rfl, nextRepresents⟩
    · simp only [callable, repeats, Bool.not_true, Bool.false_eq_true,
        if_false]
      exact ⟨linked, rfl, represents⟩
  · rw [Bool.not_eq_true] at callable
    simp only [callable, Bool.not_false, if_true]
    exact ⟨linked, rfl, represents⟩

theorem Represents.heapMin (represents : linked.Represents loop) :
    linked.timerHeap.heapMin =
      Loop.heapMin loop.handles loop.timerHeap := by
  obtain ⟨isEmpty, isLeast⟩ := represents.holds.heapMin
  cases found : linked.timerHeap.heapMin with
  | none =>
      have noMembers := isEmpty.mp found
      have noneListed : loop.timerHeap = [] := by
        rw [List.eq_nil_iff_forall_not_mem]
        intro handle member
        have isMember : handle ∈ { handle | handle ∈ loop.timerHeap } := member
        rw [noMembers] at isMember
        exact isMember
      rw [noneListed]
      rfl
  | some least =>
      obtain ⟨member, before⟩ := isLeast least found
      exact (represents.ordered.heapMin_eq_some member before).symm

theorem Represents.nextTimer
    (represents : linked.Represents loop)
    (room : loop.timerCounter.toNat + 1 < 2 ^ 64) :
    (loop.nextTimer = none → linked.nextTimer = some none) ∧
      ∀ handle after,
        loop.nextTimer = some (handle, after) →
          ∃ next,
            linked.nextTimer = some (some (handle, next)) ∧
              next.Represents after := by
  have sameHandles : linked.handles = loop.handles :=
    congrArg Loop.handles represents.fields
  have sameTime : linked.time = loop.time :=
    congrArg Loop.time represents.fields
  rw [LinkedLoop.nextTimer, Loop.nextTimer, represents.heapMin]
  cases found : Loop.heapMin loop.handles loop.timerHeap with
  | none => exact ⟨fun _ => rfl, fun _ _ impossible => by cases impossible⟩
  | some handle =>
      have inRange := represents.within handle (Loop.mem_of_heapMin found)
      simp only [sameHandles, sameTime]
      by_cases early : (loop.handles handle).timeout > loop.time
      · rw [if_pos early, if_pos early]
        exact ⟨fun _ => rfl, fun _ _ impossible => by cases impossible⟩
      · obtain ⟨stopped, stops, stoppedRepresents⟩ :=
          represents.timerStop handle
        have stoppedRoom :
            (loop.timerStop handle).timerCounter.toNat + 1 < 2 ^ 64 := by
          rw [Loop.timerStop_timerCounter]
          exact room
        obtain ⟨next, again, nextRepresents⟩ :=
          stoppedRepresents.timerAgain inRange stoppedRoom
        rw [if_neg early, if_neg early]
        refine ⟨fun impossible => (by cases impossible), ?_⟩
        intro fired after isNext
        cases isNext
        refine ⟨next, ?_, nextRepresents⟩
        simp only [stops, again, Option.bind_eq_bind, Option.bind_some]
        rfl

theorem Represents.close
    (represents : linked.Represents loop) (handle : Nat) (closeCb : Bool) :
    (∀ assertion,
        loop.close handle closeCb = .error assertion →
          linked.close handle closeCb = some (.error assertion)) ∧
      ∀ after,
        loop.close handle closeCb = .ok after →
          ∃ next,
            linked.close handle closeCb = some (.ok next) ∧
              next.Represents after := by
  have sameHandles : linked.handles = loop.handles :=
    congrArg Loop.handles represents.fields
  rw [LinkedLoop.close, Loop.close, sameHandles]
  cases (loop.handles handle).isClosing with
  | true =>
      refine ⟨?_, fun _ impossible => by cases impossible⟩
      intro assertion isError
      cases isError
      rfl
  | false =>
      let write := fun timer : Handle =>
        { timer with closing := true, closeCb := closeCb }
      have marked :
          (linked.update handle write).Represents
            (loop.update handle write) :=
        represents.update rfl fun _ => rfl
      obtain ⟨stopped, stops, stoppedRepresents⟩ := marked.timerStop handle
      refine ⟨fun _ impossible => (by cases impossible), ?_⟩
      intro after isOk
      cases isOk
      refine
        ⟨{ stopped with closingHandles := handle :: stopped.closingHandles },
          ?_, ?_⟩
      · simp only [write] at stops
        simp only [Bool.false_eq_true, if_false, stops, Option.bind_eq_bind,
          Option.bind_some]
        rfl
      · refine stoppedRepresents.transfer ?_ rfl rfl rfl rfl rfl
        exact
          congrArg
            (fun next : Loop =>
              { next with closingHandles := handle :: next.closingHandles })
            stoppedRepresents.fields

theorem Represents.finishClose
    (represents : linked.Represents loop) (handle : Nat) :
    (∀ assertion,
        loop.finishClose handle = .error assertion →
          linked.finishClose handle = .error assertion) ∧
      ∀ after,
        loop.finishClose handle = .ok after →
          ∃ next,
            linked.finishClose handle = .ok next ∧
              next.Represents after := by
  have sameHandles : linked.handles = loop.handles :=
    congrArg Loop.handles represents.fields
  rw [LinkedLoop.finishClose, Loop.finishClose, sameHandles]
  split_ifs
  · refine ⟨?_, fun _ impossible => by cases impossible⟩
    intro assertion isError
    cases isError
    rfl
  · refine ⟨?_, fun _ impossible => by cases impossible⟩
    intro assertion isError
    cases isError
    rfl
  · refine ⟨fun _ impossible => (by cases impossible), ?_⟩
    intro after isOk
    cases isOk
    have marked :
        (linked.update handle
            fun timer => { timer with closed := true }).Represents
          (loop.update handle fun timer => { timer with closed := true }) :=
      represents.update rfl fun _ => rfl
    refine ⟨_, rfl, marked.transfer ?_ rfl rfl rfl rfl rfl⟩
    obtain ⟨members, rfl⟩ := represents.eq_toLoop
    rfl

theorem Represents.backendTimeout (represents : linked.Represents loop) :
    linked.backendTimeout = loop.backendTimeout := by
  have least := represents.heapMin
  obtain ⟨members, rfl⟩ := represents.eq_toLoop
  have idle :
      linked.activeHandles = 0 ↔ (linked.toLoop members).activeHandles = 0 :=
    UInt32.toNat_inj.symm
  rw [LinkedLoop.backendTimeout, LinkedLoop.nextTimeout, least,
    Loop.backendTimeout]
  simp only [idle]
  rfl

theorem Represents.alive (represents : linked.Represents loop) :
    linked.alive = loop.alive := by
  obtain ⟨members, rfl⟩ := represents.eq_toLoop
  rfl

end LinkedLoop

/-! ## Sequences of calls -/

private theorem Loop.timerCounter_succ_le (loop : Loop) :
    (loop.timerCounter + 1).toNat ≤ loop.timerCounter.toNat + 1 := by
  rw [UInt64.toNat_add]
  exact Nat.mod_le _ _

private theorem Loop.timerStart_counter_le
    (loop : Loop) (handle : Nat) (timeout repeatTime : UInt64) :
    (loop.timerStart handle timeout repeatTime).2.timerCounter.toNat ≤
      loop.timerCounter.toNat + 1 := by
  rw [Loop.timerStart]
  split_ifs
  · exact Nat.le_succ _
  · change ((loop.timerStop handle).timerCounter + 1).toNat ≤ _
    rw [Loop.timerStop_timerCounter]
    exact loop.timerCounter_succ_le

private theorem Loop.timerAgain_counter_le (loop : Loop) (handle : Nat) :
    (loop.timerAgain handle).2.timerCounter.toNat ≤
      loop.timerCounter.toNat + 1 := by
  rw [Loop.timerAgain]
  split_ifs
  · exact Nat.le_succ _
  · have counted :=
      (loop.timerStop handle).timerStart_counter_le handle
        (loop.handles handle).repeatTime (loop.handles handle).repeatTime
    rw [Loop.timerStop_timerCounter] at counted
    exact counted
  · exact Nat.le_succ _

/-- Every call takes one number from the counter at most. -/
theorem timerCalls_counter_le
    {loop next : Loop} {call : TimerCall} {results : List TimerResult}
    (stepped : timerCalls.step loop call = some (next, results)) :
    next.timerCounter.toNat ≤
      loop.timerCounter.toNat + if call.takesNumber then 1 else 0 := by
  cases call with
  | timerInit handle =>
      simp only [timerCalls] at stepped
      split_ifs at stepped
      cases stepped
      exact Nat.le_refl _
  | timerStart handle timeout repeatTime =>
      cases stepped
      exact loop.timerStart_counter_le handle timeout repeatTime
  | timerStop handle =>
      cases stepped
      rw [Loop.timerStop_timerCounter]
      exact Nat.le_refl _
  | timerAgain handle =>
      cases stepped
      exact loop.timerAgain_counter_le handle
  | close handle closeCb =>
      simp only [timerCalls, Loop.close] at stepped
      by_cases isClosing : (loop.handles handle).isClosing = true
      · rw [if_pos isClosing] at stepped
        cases stepped
        exact Nat.le_refl _
      · rw [if_neg isClosing] at stepped
        cases stepped
        change (Loop.timerStop _ handle).timerCounter.toNat ≤ _
        rw [Loop.timerStop_timerCounter]
        exact Nat.le_refl _
  | finishClose handle =>
      simp only [timerCalls, Loop.finishClose] at stepped
      split_ifs at stepped <;>
        · cases stepped
          exact Nat.le_refl _
  | nextTimer =>
      simp only [timerCalls, Loop.nextTimer] at stepped
      split at stepped
      · cases stepped
        exact Nat.le_succ _
      · rename_i handle next found
        split at found
        · cases found
        · rename_i least _
          split at found
          · cases found
          · cases found
            cases stepped
            have counted :=
              (loop.timerStop handle).timerAgain_counter_le handle
            rw [Loop.timerStop_timerCounter] at counted
            exact counted
  | _ =>
      cases stepped
      exact Nat.le_refl _

namespace LinkedLoop

variable {linked : LinkedLoop} {loop next : Loop}

/-- A call on a linked heap answers like the call on the list. -/
theorem Represents.step
    (represents : linked.Represents loop)
    {call : TimerCall}
    (room :
      call.takesNumber = true → loop.timerCounter.toNat + 1 < 2 ^ 64)
    (inRange : ∀ handle, call.started = some handle → handle < handleLimit)
    {results : List TimerResult}
    (stepped : timerCalls.step loop call = some (next, results)) :
    ∃ after,
      linkedTimerCalls.step linked call = some (after, results) ∧
        after.Represents next := by
  cases call with
  | timerInit handle =>
      simp only [timerCalls] at stepped
      split_ifs at stepped with active
      cases stepped
      rw [Bool.not_eq_true] at active
      have absent : handle ∉ loop.timerHeap := by
        rw [represents.active handle, active]
        exact Bool.false_ne_true
      have updated :
          (linked.update handle Handle.initialised).Represents
            (loop.update handle Handle.initialised) :=
        represents.update active.symm fun member => absurd member absent
      refine ⟨_, rfl, updated.transfer ?_ rfl rfl rfl rfl rfl⟩
      obtain ⟨members, rfl⟩ := represents.eq_toLoop
      rfl
  | timerStart handle timeout repeatTime =>
      cases stepped
      obtain ⟨after, starts, nextRepresents⟩ :=
        represents.timerStart (inRange handle rfl) (room rfl) timeout
          repeatTime
      refine ⟨after, ?_, nextRepresents⟩
      simp only [linkedTimerCalls, starts, Option.bind_eq_bind,
        Option.bind_some]
      rfl
  | timerStop handle =>
      cases stepped
      obtain ⟨after, stops, nextRepresents⟩ := represents.timerStop handle
      refine ⟨after, ?_, nextRepresents⟩
      simp only [linkedTimerCalls, stops, Option.bind_eq_bind,
        Option.bind_some]
      rfl
  | timerAgain handle =>
      cases stepped
      obtain ⟨after, again, nextRepresents⟩ :=
        represents.timerAgain (inRange handle rfl) (room rfl)
      refine ⟨after, ?_, nextRepresents⟩
      simp only [linkedTimerCalls, again, Option.bind_eq_bind,
        Option.bind_some]
      rfl
  | timerSetRepeat handle repeatTime =>
      cases stepped
      exact ⟨_, rfl, represents.update rfl fun _ => rfl⟩
  | timerGetDueIn handle =>
      cases stepped
      have same :
          linked.timerGetDueIn handle = loop.timerGetDueIn handle := by
        obtain ⟨members, rfl⟩ := represents.eq_toLoop
        rfl
      refine ⟨linked, ?_, represents⟩
      simp only [linkedTimerCalls, same]
  | close handle closeCb =>
      obtain ⟨onError, onOk⟩ := represents.close handle closeCb
      simp only [timerCalls] at stepped
      split at stepped
      · rename_i assertion isError
        cases stepped
        refine ⟨linked, ?_, represents⟩
        simp only [linkedTimerCalls, onError assertion isError,
          Option.bind_eq_bind, Option.bind_some]
        rfl
      · rename_i isOk
        cases stepped
        obtain ⟨after, closes, nextRepresents⟩ := onOk _ isOk
        refine ⟨after, ?_, nextRepresents⟩
        simp only [linkedTimerCalls, closes, Option.bind_eq_bind,
          Option.bind_some]
        rfl
  | takeClosing =>
      cases stepped
      refine ⟨_, rfl, represents.transfer ?_ rfl rfl rfl rfl rfl⟩
      obtain ⟨members, rfl⟩ := represents.eq_toLoop
      rfl
  | finishClose handle =>
      obtain ⟨onError, onOk⟩ := represents.finishClose handle
      simp only [timerCalls] at stepped
      split at stepped
      · rename_i assertion isError
        cases stepped
        refine ⟨linked, ?_, represents⟩
        simp only [linkedTimerCalls, onError assertion isError]
      · rename_i isOk
        cases stepped
        obtain ⟨after, closes, nextRepresents⟩ := onOk _ isOk
        refine ⟨after, ?_, nextRepresents⟩
        simp only [linkedTimerCalls, closes]
  | updateTime hrtime =>
      cases stepped
      refine ⟨_, rfl, represents.transfer ?_ rfl rfl rfl rfl rfl⟩
      obtain ⟨members, rfl⟩ := represents.eq_toLoop
      rfl
  | nextTimer =>
      obtain ⟨onNone, onSome⟩ := represents.nextTimer (room rfl)
      simp only [timerCalls] at stepped
      split at stepped
      · rename_i isNone
        cases stepped
        refine ⟨linked, ?_, represents⟩
        simp only [linkedTimerCalls, onNone isNone, Option.bind_eq_bind,
          Option.bind_some]
        rfl
      · rename_i isSome
        cases stepped
        obtain ⟨after, fires, nextRepresents⟩ := onSome _ _ isSome
        refine ⟨after, ?_, nextRepresents⟩
        simp only [linkedTimerCalls, fires, Option.bind_eq_bind,
          Option.bind_some]
        rfl
  | backendTimeout =>
      cases stepped
      refine ⟨linked, ?_, represents⟩
      simp only [linkedTimerCalls, represents.backendTimeout]
  | alive =>
      cases stepped
      refine ⟨linked, ?_, represents⟩
      simp only [linkedTimerCalls, represents.alive]

/-- A run of calls on the list is one on the linked heap. -/
theorem represents_of_run
    (nodes : Nat → HeapNode Nat) (hrtime : UInt64)
    {calls : List TimerCall} {results : List TimerResult}
    (ran :
      timerCalls.run (Loop.init hrtime) calls = some (loop, results))
    (fewHandles :
      ∀ call ∈ calls, ∀ handle,
        call.started = some handle → handle < handleLimit)
    (fewNumbers : calls.countP TimerCall.takesNumber < 2 ^ 64) :
    loop.timerCounter.toNat ≤ calls.countP TimerCall.takesNumber ∧
      ∃ linked : LinkedLoop,
        linkedTimerCalls.run (LinkedLoop.init nodes hrtime) calls =
            some (linked, results) ∧
          linked.Represents loop := by
  refine
    Machine.history_invariant
      (fun history outputs loop =>
        (∀ call ∈ history, ∀ handle,
            call.started = some handle → handle < handleLimit) →
          history.countP TimerCall.takesNumber < 2 ^ 64 →
          loop.timerCounter.toNat ≤ history.countP TimerCall.takesNumber ∧
            ∃ linked : LinkedLoop,
              linkedTimerCalls.run (LinkedLoop.init nodes hrtime)
                  history = some (linked, outputs) ∧
                linked.Represents loop)
      ?_ ?_ ran fewHandles fewNumbers
  · intro _ _
    exact ⟨Nat.le_refl 0, _, rfl, .init nodes hrtime⟩
  · intro history outputs state call next emitted _ earlier stepped few short
    rw [List.countP_append, List.countP_singleton] at short ⊢
    obtain ⟨counted, linked, front, represents⟩ :=
      earlier
        (fun before member => few before (List.mem_append_left _ member))
        (by omega)
    have inRange :=
      few call (List.mem_append_right _ (List.mem_singleton_self call))
    have counts := timerCalls_counter_le stepped
    obtain ⟨after, answers, nextRepresents⟩ :=
      represents.step (fun takes => by rw [if_pos takes] at short; omega)
        inRange stepped
    refine ⟨by omega, after, ?_, nextRepresents⟩
    exact
      Machine.run_concat_eq_some.mpr
        ⟨linked, outputs, emitted, front, answers, rfl⟩

end LinkedLoop

/-- Every sequence of calls gets the same results from a linked heap as from
the list of its members, and never leads through a null pointer. -/
theorem linkedTimerCalls_run
    (nodes : Nat → HeapNode Nat) (hrtime : UInt64)
    {calls : List TimerCall} {loop : Loop} {results : List TimerResult}
    (fewHandles :
      ∀ call ∈ calls, ∀ handle,
        call.started = some handle → handle < 2 ^ 32 - 1)
    (fewCalls : calls.length < 2 ^ 64)
    (ran :
      timerCalls.run (Loop.init hrtime) calls = some (loop, results)) :
    ∃ linked,
      linkedTimerCalls.run (LinkedLoop.init nodes hrtime) calls =
          some (linked, results) ∧
        linked.toLoop loop.timerHeap = loop ∧
        linked.timerHeap.Holds (fun handle => (loop.handles handle).key)
          { handle | (loop.handles handle).active = true } := by
  obtain ⟨-, linked, linkedRan, represents⟩ :=
    LinkedLoop.represents_of_run nodes hrtime ran fewHandles
      (Nat.lt_of_le_of_lt List.countP_le_length fewCalls)
  exact ⟨linked, linkedRan, represents.fields, represents.holds_active⟩

/-- Of two timers, the one that is due first is taken from the heap. -/
theorem linkedTimerCalls_run_two :
    ∃ loop linked,
      linkedTimerCalls.run (LinkedLoop.init (fun _ => {}) 0)
          [.timerInit 0, .timerInit 1, .timerStart 0 5 0, .timerStart 1 3 0,
            .updateTime 9000000, .nextTimer] =
        some
          (linked,
            [.code 0, .code 0, .code 0, .code 0, .next (some 1)]) ∧
      linked.toLoop loop.timerHeap = loop ∧
      linked.timerHeap.Holds (fun handle => (loop.handles handle).key)
        { handle | (loop.handles handle).active = true } :=
  ⟨_,
    linkedTimerCalls_run (fun _ => {}) 0
      (by simp [TimerCall.started]) (by decide) rfl⟩

end DkPull.Libuv
