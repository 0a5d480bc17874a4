import DkPull.Libuv.Timer

/-!
# The life of a timer handle

A handle is inactive or active until it is closed.  A closing handle waits in
the list of closing handles, from which libuv takes all of them at once and
works them off.  The loop is alive while a handle is active or waiting.
-/

namespace DkPull.Libuv

/-- The flags of a handle agree with the lists it is in: the heap, the handles
waiting to be closed, and the handles of the loop. -/
structure Tracked
    (timer : Handle) (inHeap isWaiting inQueue : Prop) : Prop where
  active : inHeap ↔ timer.active = true
  waiting : isWaiting ↔ timer.closing = true ∧ timer.closed = false
  queued : inQueue → timer.closed = false
  callable : timer.active = true → timer.timerCb = true
  open_of_active : timer.active = true → timer.closing = false
  closing_of_closed : timer.closed = true → timer.closing = true

section Tracked

variable {timer : Handle} {inHeap isWaiting inQueue : Prop}

theorem Tracked.inactive_of_closing
    (tracked : Tracked timer inHeap isWaiting inQueue)
    (closing : timer.closing = true) : timer.active = false := by
  rw [← Bool.not_eq_true]
  intro active
  rw [tracked.open_of_active active] at closing
  cases closing

theorem Tracked.notClosed_of_open
    (tracked : Tracked timer inHeap isWaiting inQueue)
    (isOpen : timer.closing = false) : timer.closed = false := by
  rw [← Bool.not_eq_true]
  intro closed
  rw [tracked.closing_of_closed closed] at isOpen
  cases isOpen

end Tracked

namespace Loop

/-- The loop and its handles agree.  The handles in `taken` have been taken from
the list of closing handles and not been worked off yet. -/
structure WellFormed (loop : Loop) (taken : List Nat) : Prop where
  heapNodup : loop.timerHeap.Nodup
  counted : loop.activeHandles = loop.timerHeap.length
  waitingNodup : (loop.closingHandles ++ taken).Nodup
  queueNodup : loop.handleQueue.Nodup
  tracked :
    ∀ handle,
      Tracked (loop.handles handle) (handle ∈ loop.timerHeap)
        (handle ∈ loop.closingHandles ++ taken)
        (handle ∈ loop.handleQueue)

variable {loop next : Loop} {taken : List Nat} {handle : Nat}

theorem WellFormed.init (hrtime : UInt64) :
    (Loop.init hrtime).WellFormed [] := by
  constructor
  case tracked => intro handle; constructor <;> simp [Loop.init]
  all_goals simp [Loop.init]

theorem WellFormed.isClosing_eq
    (wellFormed : loop.WellFormed taken) (handle : Nat) :
    (loop.handles handle).isClosing = (loop.handles handle).closing := by
  have closing := (wellFormed.tracked handle).closing_of_closed
  unfold Handle.isClosing
  cases closed : (loop.handles handle).closed with
  | false => exact Bool.or_false _
  | true => rw [closing closed, Bool.or_true]

theorem WellFormed.updateTime
    (wellFormed : loop.WellFormed taken) (hrtime : UInt64) :
    (loop.updateTime hrtime).WellFormed taken :=
  { wellFormed with }

theorem WellFormed.timerInit
    (wellFormed : loop.WellFormed taken)
    (blank : loop.handles handle = {})
    (fresh : handle ∉ loop.handleQueue) :
    (loop.timerInit handle).WellFormed taken := by
  have unchanged : (loop.timerInit handle).handles = loop.handles := by
    have same :
        (loop.handles handle).initialised = loop.handles handle := by
      rw [blank]
      rfl
    change Function.update loop.handles handle _ = loop.handles
    rw [same, Function.update_eq_self]
  constructor
  · exact wellFormed.heapNodup
  · exact wellFormed.counted
  · exact wellFormed.waitingNodup
  · change (loop.handleQueue ++ [handle]).Nodup
    rw [List.nodup_append]
    refine
      ⟨wellFormed.queueNodup, List.nodup_singleton handle, ?_⟩
    rintro other member last now rfl
    rw [List.mem_singleton.mp now] at member
    exact fresh member
  · intro other
    rw [unchanged]
    refine { wellFormed.tracked other with queued := ?_ }
    intro queued
    rcases List.mem_append.mp queued with earlier | now
    · exact (wellFormed.tracked other).queued earlier
    · rw [List.mem_singleton.mp now, blank]

@[simp]
theorem timerStop_handles (loop : Loop) (handle : Nat) :
    (loop.timerStop handle).handles =
      Function.update loop.handles handle
        { loop.handles handle with active := false } := by
  unfold timerStop
  split
  · rfl
  · rename_i inactive
    rw [Bool.not_eq_true] at inactive
    rw [← inactive]
    exact (Function.update_eq_self handle loop.handles).symm

@[simp]
theorem timerStop_time (loop : Loop) (handle : Nat) :
    (loop.timerStop handle).time = loop.time := by
  unfold timerStop
  split <;> rfl

@[simp]
theorem timerStop_closingHandles (loop : Loop) (handle : Nat) :
    (loop.timerStop handle).closingHandles = loop.closingHandles := by
  unfold timerStop
  split <;> rfl

@[simp]
theorem timerStop_handleQueue (loop : Loop) (handle : Nat) :
    (loop.timerStop handle).handleQueue = loop.handleQueue := by
  unfold timerStop
  split <;> rfl

theorem WellFormed.timerStop_heap
    (wellFormed : loop.WellFormed taken) (handle : Nat) :
    (loop.timerStop handle).timerHeap = loop.timerHeap.erase handle ∧
      (loop.timerStop handle).activeHandles =
        (loop.timerHeap.erase handle).length := by
  have tracked := wellFormed.tracked handle
  unfold Loop.timerStop
  split
  · rename_i active
    have member := tracked.active.mpr active
    refine ⟨rfl, ?_⟩
    rw [List.length_erase_of_mem member, ← wellFormed.counted]
  · rename_i inactive
    have absent := mt tracked.active.mp inactive
    rw [List.erase_of_not_mem absent]
    exact ⟨rfl, wellFormed.counted⟩

theorem WellFormed.timerStop
    (wellFormed : loop.WellFormed taken) (handle : Nat) :
    (loop.timerStop handle).WellFormed taken := by
  obtain ⟨heap, count⟩ := wellFormed.timerStop_heap handle
  constructor
  · rw [heap]
    exact wellFormed.heapNodup.erase handle
  · rw [heap, count]
  · simpa using wellFormed.waitingNodup
  · simpa using wellFormed.queueNodup
  · intro other
    have tracked := wellFormed.tracked other
    rw [heap, timerStop_handles, timerStop_closingHandles,
      timerStop_handleQueue, wellFormed.heapNodup.mem_erase_iff]
    by_cases same : other = handle
    · subst same
      rw [Function.update_self]
      exact
        { active := by simp
          waiting := tracked.waiting
          queued := tracked.queued
          callable := by simp
          open_of_active := by simp
          closing_of_closed := tracked.closing_of_closed }
    · rw [Function.update_of_ne same]
      refine { tracked with active := ?_ }
      rw [← tracked.active, and_iff_right same]

/-- An inactive handle enters the heap. -/
def activate (loop : Loop) (handle : Nat) (timeout repeatTime : UInt64) :
    Loop :=
  { loop.update handle fun timer =>
      { timer with
        active := true
        timerCb := true
        timeout := clampedTimeout loop.time timeout
        repeatTime := repeatTime
        startId := loop.timerCounter } with
    timerCounter := loop.timerCounter + 1
    timerHeap := handle :: loop.timerHeap
    activeHandles := loop.activeHandles + 1 }

theorem activate_handles
    (loop : Loop) (handle : Nat) (timeout repeatTime : UInt64) :
    (loop.activate handle timeout repeatTime).handles =
      Function.update loop.handles handle
        { loop.handles handle with
          active := true
          timerCb := true
          timeout := clampedTimeout loop.time timeout
          repeatTime := repeatTime
          startId := loop.timerCounter } :=
  rfl

theorem timerStart_of_open
    (isOpen : (loop.handles handle).isClosing = false)
    (timeout repeatTime : UInt64) :
    loop.timerStart handle timeout repeatTime =
      (0, (loop.timerStop handle).activate handle timeout repeatTime) := by
  rw [timerStart, isOpen, if_neg Bool.false_ne_true]
  rfl

theorem WellFormed.activate
    (wellFormed : loop.WellFormed taken)
    (inactive : (loop.handles handle).active = false)
    (isOpen : (loop.handles handle).closing = false)
    (timeout repeatTime : UInt64) :
    (loop.activate handle timeout repeatTime).WellFormed taken := by
  have absent : handle ∉ loop.timerHeap := by
    rw [(wellFormed.tracked handle).active, inactive]
    exact Bool.false_ne_true
  constructor
  · exact List.nodup_cons.mpr ⟨absent, wellFormed.heapNodup⟩
  · exact congrArg (· + 1) wellFormed.counted
  · exact wellFormed.waitingNodup
  · exact wellFormed.queueNodup
  · intro other
    have tracked := wellFormed.tracked other
    rw [activate_handles]
    by_cases same : other = handle
    · subst same
      rw [Function.update_self]
      exact
        { active := iff_of_true List.mem_cons_self rfl
          waiting := tracked.waiting
          queued := tracked.queued
          callable := fun _ => rfl
          open_of_active := fun _ => isOpen
          closing_of_closed := tracked.closing_of_closed }
    · rw [Function.update_of_ne same]
      refine { tracked with active := ?_ }
      rw [← tracked.active]
      exact List.mem_cons.trans (or_iff_right same)

/-! ## Firing -/

theorem mem_of_heapMin
    {handles : Nat → Handle} {heap : List Nat}
    (least : heapMin handles heap = some handle) : handle ∈ heap := by
  induction heap with
  | nil => cases least
  | cons first rest inductionHypothesis =>
      unfold heapMin at least
      split at least
      · cases least
        exact List.mem_cons_self
      · rename_i other found
        split at least
        · cases least
          exact List.mem_cons_self
        · cases least
          exact List.mem_cons_of_mem first (inductionHypothesis found)

theorem timerStop_of_inactive
    (inactive : (loop.handles handle).active = false) :
    loop.timerStop handle = loop := by
  rw [timerStop, inactive, if_neg Bool.false_ne_true]

/-- The loop behind `uv_timer_stop` and `uv_timer_again` on an active handle. -/
def fire (loop : Loop) (handle : Nat) : Loop :=
  if (loop.handles handle).repeatTime = 0 then loop.timerStop handle
  else
    (loop.timerStop handle).activate handle
      (loop.handles handle).repeatTime (loop.handles handle).repeatTime

theorem fire_handles_of_ne
    {other : Nat} (different : other ≠ handle) :
    (loop.fire handle).handles other = loop.handles other := by
  unfold fire
  split
  · rw [timerStop_handles, Function.update_of_ne different]
  · rw [activate_handles, Function.update_of_ne different,
      timerStop_handles, Function.update_of_ne different]

theorem fire_handles_of_once
    (once : (loop.handles handle).repeatTime = 0) :
    (loop.fire handle).handles handle =
      { loop.handles handle with active := false } := by
  rw [fire, if_pos once, timerStop_handles, Function.update_self]

/-- A handle that repeats is armed again, from the time of the loop. -/
theorem fire_handles_of_repeated
    (repeated : (loop.handles handle).repeatTime ≠ 0) :
    (loop.fire handle).handles handle =
      { loop.handles handle with
        active := true
        timerCb := true
        timeout :=
          clampedTimeout loop.time (loop.handles handle).repeatTime
        startId := (loop.timerStop handle).timerCounter } := by
  rw [fire, if_neg repeated, activate_handles, Function.update_self,
    timerStop_handles, Function.update_self, timerStop_time]

@[simp]
theorem fire_time (loop : Loop) (handle : Nat) :
    (loop.fire handle).time = loop.time := by
  unfold fire
  split
  · exact timerStop_time loop handle
  · exact timerStop_time loop handle

@[simp]
theorem fire_handleQueue (loop : Loop) (handle : Nat) :
    (loop.fire handle).handleQueue = loop.handleQueue := by
  unfold fire
  split
  · exact timerStop_handleQueue loop handle
  · exact timerStop_handleQueue loop handle

private theorem timerAgain_eq_fire
    (callable : (loop.handles handle).timerCb = true)
    (isOpen : (loop.handles handle).isClosing = false) :
    ((loop.timerStop handle).timerAgain handle).2 = loop.fire handle := by
  have inactive :
      ((loop.timerStop handle).handles handle).active = false := by simp
  have stillOpen :
      ((loop.timerStop handle).handles handle).isClosing = false := by
    rw [timerStop_handles, Function.update_self]
    exact isOpen
  have again :
      ((loop.timerStop handle).timerStop handle) = loop.timerStop handle :=
    timerStop_of_inactive inactive
  simp only [timerAgain, again, timerStart_of_open stillOpen,
    timerStop_handles, Function.update_self, callable]
  by_cases single : (loop.handles handle).repeatTime = 0
  · simp [fire, single]
  · simp [fire, single]

/-- What `uv__run_timers` does before it calls the callback of a timer. -/
theorem WellFormed.nextTimer_eq_some
    (wellFormed : loop.WellFormed taken)
    (found : loop.nextTimer = some (handle, next)) :
    (loop.handles handle).active = true ∧
      (loop.handles handle).timeout ≤ loop.time ∧
      next = loop.fire handle := by
  unfold nextTimer at found
  split at found
  · cases found
  · rename_i least isLeast
    split at found
    · cases found
    · rename_i due
      cases found
      have active :=
        (wellFormed.tracked handle).active.mp (mem_of_heapMin isLeast)
      have callable := (wellFormed.tracked handle).callable active
      have isOpen := (wellFormed.tracked handle).open_of_active active
      have notClosing := (wellFormed.isClosing_eq handle).trans isOpen
      exact
        ⟨active, UInt64.not_lt.mp due,
          timerAgain_eq_fire callable notClosing⟩

theorem WellFormed.fire
    (wellFormed : loop.WellFormed taken)
    (active : (loop.handles handle).active = true) :
    (loop.fire handle).WellFormed taken := by
  have isOpen := (wellFormed.tracked handle).open_of_active active
  unfold Loop.fire
  split
  · exact wellFormed.timerStop handle
  · apply (wellFormed.timerStop handle).activate <;> simp [isOpen]

/-! ## Closing -/

def enterClosing (loop : Loop) (handle : Nat) (closeCb : Bool) : Loop :=
  let loop := loop.timerStop handle
  { loop.update handle fun timer =>
      { timer with closing := true, closeCb := closeCb } with
    closingHandles := handle :: loop.closingHandles }

theorem close_of_open
    (isOpen : (loop.handles handle).isClosing = false) (closeCb : Bool) :
    loop.close handle closeCb =
      .ok (loop.enterClosing handle closeCb) := by
  rw [close, isOpen, if_neg Bool.false_ne_true]
  by_cases active : (loop.handles handle).active = true
  · simp [enterClosing, timerStop, update, active]
  · rw [Bool.not_eq_true] at active
    simp [enterClosing, timerStop, update, active]

theorem timerStop_enterClosing
    (loop : Loop) (handle : Nat) (closeCb : Bool) :
    (loop.timerStop handle).enterClosing handle closeCb =
      loop.enterClosing handle closeCb := by
  have inactive :
      ((loop.timerStop handle).handles handle).active = false := by simp
  unfold enterClosing
  rw [timerStop_of_inactive inactive]

theorem enterClosing_handles
    (loop : Loop) (handle : Nat) (closeCb : Bool) :
    (loop.enterClosing handle closeCb).handles =
      Function.update loop.handles handle
        { loop.handles handle with
          active := false
          closing := true
          closeCb := closeCb } := by
  unfold enterClosing update
  simp

theorem enterClosing_closingHandles
    (loop : Loop) (handle : Nat) (closeCb : Bool) :
    (loop.enterClosing handle closeCb).closingHandles =
      handle :: loop.closingHandles :=
  congrArg (handle :: ·) (timerStop_closingHandles loop handle)

theorem WellFormed.enterClosing
    (wellFormed : loop.WellFormed taken)
    (isOpen : (loop.handles handle).closing = false) (closeCb : Bool) :
    (loop.enterClosing handle closeCb).WellFormed taken := by
  have stopped := wellFormed.timerStop handle
  have absent : handle ∉ loop.closingHandles ++ taken := by
    rw [(wellFormed.tracked handle).waiting, isOpen]
    exact fun both => Bool.false_ne_true both.1
  have notClosed := (wellFormed.tracked handle).notClosed_of_open isOpen
  constructor
  · exact stopped.heapNodup
  · exact stopped.counted
  · rw [enterClosing_closingHandles]
    exact List.nodup_cons.mpr ⟨absent, wellFormed.waitingNodup⟩
  · exact stopped.queueNodup
  · intro other
    have tracked := stopped.tracked other
    rw [timerStop_handles, timerStop_closingHandles] at tracked
    rw [enterClosing_handles, enterClosing_closingHandles]
    by_cases same : other = handle
    · subst same
      rw [Function.update_self] at tracked ⊢
      exact
        { active := tracked.active
          waiting := iff_of_true List.mem_cons_self ⟨rfl, notClosed⟩
          queued := tracked.queued
          callable := tracked.callable
          open_of_active := fun active => by cases active
          closing_of_closed := fun _ => rfl }
    · rw [Function.update_of_ne same] at tracked ⊢
      refine { tracked with waiting := ?_ }
      rw [← tracked.waiting]
      exact List.mem_cons.trans (or_iff_right same)

/-- `uv__run_closing_handles` takes all closing handles at once. -/
theorem WellFormed.takeClosing
    (wellFormed : loop.WellFormed []) :
    ({ loop with closingHandles := [] } : Loop).WellFormed
      loop.closingHandles := by
  constructor
  · exact wellFormed.heapNodup
  · exact wellFormed.counted
  · simpa using wellFormed.waitingNodup
  · exact wellFormed.queueNodup
  · intro other
    simpa using wellFormed.tracked other

def leaveClosing (loop : Loop) (handle : Nat) : Loop :=
  { loop.update handle fun timer => { timer with closed := true } with
    handleQueue := loop.handleQueue.erase handle }

private theorem leaveClosing_handles (loop : Loop) (handle : Nat) :
    (loop.leaveClosing handle).handles =
      Function.update loop.handles handle
        { loop.handles handle with closed := true } :=
  rfl

private theorem leaveClosing_closingHandles (loop : Loop) (handle : Nat) :
    (loop.leaveClosing handle).closingHandles = loop.closingHandles :=
  rfl

theorem WellFormed.finishClose_taken
    (wellFormed : loop.WellFormed (handle :: taken)) :
    loop.finishClose handle = .ok (loop.leaveClosing handle) := by
  have waiting : handle ∈ loop.closingHandles ++ handle :: taken := by simp
  obtain ⟨closing, notClosed⟩ :=
    (wellFormed.tracked handle).waiting.mp waiting
  rw [finishClose, closing, notClosed, Bool.not_true,
    if_neg Bool.false_ne_true, if_neg Bool.false_ne_true]
  rfl

theorem WellFormed.leaveClosing
    (wellFormed : loop.WellFormed (handle :: taken)) :
    (loop.leaveClosing handle).WellFormed taken := by
  have waiting : handle ∈ loop.closingHandles ++ handle :: taken := by simp
  have closing := ((wellFormed.tracked handle).waiting.mp waiting).1
  obtain ⟨absent, nodup⟩ :=
    List.nodup_middle.mp wellFormed.waitingNodup |> List.nodup_cons.mp
  constructor
  · exact wellFormed.heapNodup
  · exact wellFormed.counted
  · exact nodup
  · exact wellFormed.queueNodup.erase handle
  · intro other
    have tracked := wellFormed.tracked other
    rw [leaveClosing_handles]
    change Tracked _ _ _ (other ∈ loop.handleQueue.erase handle)
    rw [wellFormed.queueNodup.mem_erase_iff]
    by_cases same : other = handle
    · subst same
      rw [Function.update_self]
      exact
        { active := tracked.active
          waiting :=
            iff_of_false absent fun both => by cases both.2
          queued := fun queued => absurd rfl queued.1
          callable := tracked.callable
          open_of_active := tracked.open_of_active
          closing_of_closed := fun _ => closing }
    · rw [Function.update_of_ne same]
      refine { tracked with waiting := ?_, queued := ?_ }
      · rw [← tracked.waiting, leaveClosing_closingHandles]
        simp [same]
      · exact fun queued => tracked.queued queued.2

/-- A loop that is not alive has no handle that is active or waiting. -/
theorem WellFormed.at_rest
    (wellFormed : loop.WellFormed []) (rests : loop.alive = false)
    (handle : Nat) :
    (loop.handles handle).active = false ∧
      ((loop.handles handle).closing = true →
        (loop.handles handle).closed = true) := by
  have tracked := wellFormed.tracked handle
  unfold alive at rests
  rw [Bool.or_eq_false_iff, decide_eq_false_iff_not, Nat.not_lt,
    Nat.le_zero, wellFormed.counted, List.length_eq_zero_iff,
    Bool.not_eq_false', List.isEmpty_iff] at rests
  obtain ⟨heap, waiting⟩ := rests
  constructor
  · rw [← Bool.not_eq_true, ← tracked.active, heap]
    exact List.not_mem_nil
  · intro closing
    by_contra notClosed
    rw [Bool.not_eq_true] at notClosed
    have member := tracked.waiting.mpr ⟨closing, notClosed⟩
    rw [waiting] at member
    exact List.not_mem_nil member

theorem WellFormed.loopClose_of_closed
    (wellFormed : loop.WellFormed taken)
    (allClosed :
      ∀ handle ∈ loop.handleQueue, (loop.handles handle).closed = true) :
    loop.loopClose = 0 := by
  have empty : loop.handleQueue = [] := by
    rw [List.eq_nil_iff_forall_not_mem]
    intro handle queued
    have notClosed := (wellFormed.tracked handle).queued queued
    rw [allClosed handle queued] at notClosed
    cases notClosed
  rw [loopClose, empty]
  rfl

end Loop

end DkPull.Libuv
