import DkPull.Event.TimerMoves
import DkPull.Event.TimerFiring

/-!
# What keeps an event loop alive

A timer that repeats stays armed until it is stopped, and `Run` does not return
before.  When control is outside of all callbacks, an event loop is alive as
long as one of its timers is not closed.  Then `~UvEventLoop` ends the program,
since the handle of this timer is still in the queue of the loop.
-/

namespace DkPull.Event

open DkPull.Libuv
open DkPull.Reactive

theorem UvEventLoop.closing_handleQueue
    (eventLoop : UvEventLoop) (timer : Nat) :
    (eventLoop.closing timer).uvLoop.handleQueue =
      eventLoop.uvLoop.handleQueue := by
  unfold UvEventLoop.closing
  split
  · rfl
  · exact Loop.timerStop_handleQueue eventLoop.uvLoop timer

namespace Running

/-- Handles stay in the queue of the loop until they are closed, and timers
that repeat are closed only when they are stopped. -/
structure Registered (state : Running) (timer : Nat) : Prop where
  queued :
    (state.self.uvLoop.handles timer).closed = false →
      timer ∈ state.self.uvLoop.handleQueue
  closers :
    (state.self.uvLoop.handles timer).closing = true →
      (state.self.timers timer).stopped = true ∨
        (state.self.timers timer).type = .oneTime

variable {state next : Running} {event : TimerEvent}
  {emitted : List TimerOutput} {timer : Nat}

theorem Registered.of_same
    (registered : Registered state timer)
    (timers : next.self.timers timer = state.self.timers timer)
    (handles :
      next.self.uvLoop.handles timer = state.self.uvLoop.handles timer)
    (queue :
      timer ∈ state.self.uvLoop.handleQueue →
        timer ∈ next.self.uvLoop.handleQueue) :
    Registered next timer where
  queued := by
    rw [handles]
    exact fun notClosed => queue (registered.queued notClosed)
  closers := by
    rw [handles, timers]
    exact registered.closers

/-- A timer that is being closed stays in the queue for now. -/
theorem Registered.of_closing
    (registered : Registered state timer)
    (uvLoop : next.self.uvLoop = (state.self.closing timer).uvLoop)
    (may :
      (next.self.timers timer).stopped = true ∨
        (next.self.timers timer).type = .oneTime) :
    Registered next timer where
  queued := by
    rw [uvLoop, UvEventLoop.closing_handles_self,
      UvEventLoop.closing_handleQueue]
    split <;> exact registered.queued
  closers := fun _ => may

private theorem fire_flags (loop : Loop) (handle other : Nat) :
    ((loop.fire handle).handles other).closed =
        (loop.handles other).closed ∧
      ((loop.fire handle).handles other).closing =
        (loop.handles other).closing := by
  by_cases same : other = handle
  · subst same
    by_cases once : (loop.handles other).repeatTime = 0
    · rw [Loop.fire_handles_of_once once]
      exact ⟨rfl, rfl⟩
    · rw [Loop.fire_handles_of_repeated once]
      exact ⟨rfl, rfl⟩
  · rw [Loop.fire_handles_of_ne same]
    exact ⟨rfl, rfl⟩

/-- Every step keeps the timers registered. -/
theorem Moves.registered
    (moves : state.Moves event next emitted)
    (registered : ∀ timer < state.self.created, Registered state timer) :
    ∀ timer < next.self.created, Registered next timer := by
  intro timer inRange
  cases moves with
  | created options =>
      by_cases isNew : timer = state.self.created
      · subst isNew
        constructor
        · intro _
          change _ ∈ state.self.uvLoop.handleQueue ++ [state.self.created]
          simp
        · intro closing
          rw [UvEventLoop.withTimer_handles, Function.update_self] at closing
          cases closing
      · have old : timer < state.self.created := by
          have atMost : timer < state.self.created + 1 := inRange
          omega
        apply (registered timer old).of_same
        · rw [UvEventLoop.withTimer_timers, Function.update_of_ne isNew]
        · rw [UvEventLoop.withTimer_handles, Function.update_of_ne isNew]
        · exact fun queued => List.mem_append_left _ queued
  | stopped other =>
      rw [UvEventLoop.stopping_created] at inRange
      by_cases same : timer = other
      · subst same
        apply (registered timer inRange).of_closing rfl
        simp [UvEventLoop.stopping_timers]
      · apply (registered timer inRange).of_same
        · rw [UvEventLoop.stopping_timers, Function.update_of_ne same]
        · exact UvEventLoop.closing_handles_of_ne same
        · exact fun queued =>
            UvEventLoop.closing_handleQueue state.self other ▸ queued
  | invoked other last isHere least =>
      obtain ⟨sameClosed, sameClosing⟩ :=
        fire_flags state.self.uvLoop other timer
      obtain ⟨queued, closers⟩ := registered timer inRange
      constructor
      · change ((state.self.uvLoop.fire other).handles timer).closed = _ → _
        rw [sameClosed, Loop.fire_handleQueue]
        exact queued
      · change ((state.self.uvLoop.fire other).handles timer).closing = _ → _
        rw [sameClosing]
        exact closers
  | expired other last isHere once =>
      rw [UvEventLoop.closing_created] at inRange
      by_cases same : timer = other
      · subst same
        apply (registered timer inRange).of_closing rfl
        simp [once]
      · apply (registered timer inRange).of_same
        · simp
        · exact UvEventLoop.closing_handles_of_ne same
        · exact fun queued =>
            UvEventLoop.closing_handleQueue state.self other ▸ queued
  | finished other rest =>
      by_cases same : timer = other
      · subst same
        constructor
        · intro notClosed
          rw [UvEventLoop.closedTimer_handles, Function.update_self]
            at notClosed
          cases notClosed
        · rw [UvEventLoop.closedTimer_handles,
            UvEventLoop.closedTimer_timers, Function.update_self,
            Function.update_self]
          exact (registered timer inRange).closers
      · apply (registered timer inRange).of_same
        · rw [UvEventLoop.closedTimer_timers, Function.update_of_ne same]
        · rw [UvEventLoop.closedTimer_handles, Function.update_of_ne same]
        · exact fun queued => (List.mem_erase_of_ne same).mpr queued
  | _ => exact (registered timer inRange).of_same rfl rfl id

theorem registered_of_unfailed
    {hrtime : UInt64} {events : List TimerEvent}
    {outputs : List TimerOutput}
    (ran :
      timerMachine.run (Running.init hrtime) events =
        some (state, outputs))
    (unfailed : Unfailed outputs) :
    ∀ timer < state.self.created, Registered state timer := by
  refine
    history_of_moves
      (fun _ _ state => ∀ timer < state.self.created, Registered state timer)
      ?_ ?_ ran unfailed
  · intro timer inRange
    exact absurd inRange (Nat.not_lt_zero timer)
  · intro history outputs state event next emitted _ registered moves
    exact moves.registered registered

/-- A timer that repeats is armed at every moment from its creation until it is
stopped, also inside of its own callback.  So the loop stays alive, and `Run`
does not return. -/
theorem armed_until_stopped
    {hrtime : UInt64} {events : List TimerEvent}
    {outputs : List TimerOutput} {options : TimerOptions}
    (ran :
      timerMachine.run (Running.init hrtime) events =
        some (state, outputs))
    (unfailed : Unfailed outputs)
    (created : (creations events)[timer]? = some options)
    (repeated : options.type = .repeated)
    (unstopped : .stop timer ∉ events) :
    (state.self.uvLoop.handles timer).active = true ∧
      state.self.uvLoop.alive = true ∧
      ∀ event next emitted,
        timerMachine.step state event = some (next, emitted) →
          .runReturned ∉ emitted := by
  have consistent := consistent_of_unfailed ran unfailed
  have recorded := recorded_of_unfailed ran unfailed
  have inRange : timer < state.self.created := by
    rw [← recorded.created]
    exact (List.getElem?_eq_some_iff.mp created).1
  have isRepeated : (state.self.timers timer).type = .repeated := by
    have same := recorded.options timer inRange
    rw [created] at same
    rw [← repeated, Option.some.inj same]
    rfl
  have active : (state.self.uvLoop.handles timer).active = true := by
    by_contra inactive
    rw [Bool.not_eq_true] at inactive
    cases closing : (state.self.uvLoop.handles timer).closing with
    | false =>
        have once :=
          ((consistent.coherent timer inRange).resting inactive closing).1
        rw [isRepeated] at once
        cases once
    | true =>
        rcases (registered_of_unfailed ran unfailed timer inRange).closers
            closing with
          stopped | once
        · exact
            unstopped ((recorded.stopped timer).mpr ⟨inRange, stopped⟩)
        · rw [isRepeated] at once
          cases once
  have isAlive : state.self.uvLoop.alive = true := by
    have member :=
      (consistent.wellFormed.tracked timer).active.mpr active
    have counted := List.length_pos_of_mem member
    rw [← consistent.wellFormed.counted] at counted
    simp [Loop.alive, counted]
  refine ⟨active, isAlive, ?_⟩
  intro event next emitted stepped returned
  rcases consistent.moves stepped with ⟨moves, -⟩ | ⟨refused, -⟩
  · cases moves with
    | runReturned isHere rests =>
        rw [isAlive] at rests
        cases rests
    | _ => simp at returned
  · obtain ⟨failure, rfl⟩ := refused.fails
    simp at returned

/-- All timers are closed exactly if no handle is left in the queue. -/
theorem loopClose_eq
    (consistent : state.Consistent)
    (registered : ∀ timer < state.self.created, Registered state timer) :
    state.self.uvLoop.loopClose = 0 ∧
        (∀ timer < state.self.created,
          (state.self.timers timer).closed = true) ∨
      state.self.uvLoop.loopClose = UV_EBUSY ∧
        ∃ timer < state.self.created,
          (state.self.timers timer).closed = false := by
  cases queue : state.self.uvLoop.handleQueue with
  | nil =>
      refine .inl ⟨by simp [Loop.loopClose, queue], ?_⟩
      intro timer inRange
      rw [(consistent.coherent timer inRange).closed]
      by_contra notClosed
      rw [Bool.not_eq_true] at notClosed
      have queued := (registered timer inRange).queued notClosed
      rw [queue] at queued
      cases queued
  | cons timer rest =>
      have queued : timer ∈ state.self.uvLoop.handleQueue := by
        rw [queue]
        exact List.mem_cons_self
      have inRange := consistent.queued timer queued
      refine
        .inr ⟨by simp [Loop.loopClose, queue], timer, inRange, ?_⟩
      rw [(consistent.coherent timer inRange).closed]
      exact (consistent.wellFormed.tracked timer).queued queued

private theorem not_alive_of_closed
    (consistent : state.self.Consistent none [])
    (closed :
      ∀ timer < state.self.created,
        (state.self.uvLoop.handles timer).closed = true) :
    state.self.uvLoop.alive = false := by
  have wellFormed := consistent.wellFormed
  have noneActive : state.self.uvLoop.timerHeap = [] := by
    rw [List.eq_nil_iff_forall_not_mem]
    intro timer member
    have tracked := wellFormed.tracked timer
    have active := tracked.active.mp member
    have isClosed := closed timer (consistent.created_of_active active)
    have closing := tracked.closing_of_closed isClosed
    rw [tracked.open_of_active active] at closing
    cases closing
  have noneWaiting : state.self.uvLoop.closingHandles = [] := by
    rw [List.eq_nil_iff_forall_not_mem]
    intro timer member
    obtain ⟨closing, notClosed⟩ :=
      (wellFormed.tracked timer).waiting.mp (List.mem_append_left [] member)
    rw [closed timer (consistent.created_of_closing closing)] at notClosed
    cases notClosed
  simp [Loop.alive, wellFormed.counted, noneActive, noneWaiting]

/-- An event loop can be destroyed exactly if all of its timers are closed.
While control is outside of its callbacks and of `uv_run`, this means that the
loop is not alive. -/
theorem destroy_succeeds_iff
    {hrtime : UInt64} {events : List TimerEvent}
    {outputs : List TimerOutput}
    (ran :
      timerMachine.run (Running.init hrtime) events =
        some (state, outputs))
    (unfailed : Unfailed outputs) :
    ((UvEventLoop.destroy state.self).1 = .ok ⟨⟩ ↔
        ∀ timer < state.self.created,
          (state.self.timers timer).closed = true) ∧
      ((UvEventLoop.destroy state.self).1 = .ok ⟨⟩ ∨
        (UvEventLoop.destroy state.self).1 =
          .error (.loopCloseFailed UV_EBUSY)) ∧
      (state.position = .outside ∨ state.position = .whileAlive →
        (state.self.uvLoop.alive = false ↔
          ∀ timer < state.self.created,
            (state.self.timers timer).closed = true)) := by
  have consistent := consistent_of_unfailed ran unfailed
  have registered := registered_of_unfailed ran unfailed
  have sameClosed :
      ∀ timer < state.self.created,
        (state.self.timers timer).closed =
          (state.self.uvLoop.handles timer).closed :=
    fun timer inRange => (consistent.coherent timer inRange).closed
  have destroyed :
      (UvEventLoop.destroy state.self).1 =
        if state.self.uvLoop.loopClose = 0 then .ok ⟨⟩
        else .error (.loopCloseFailed state.self.uvLoop.loopClose) := by
    by_cases closes : state.self.uvLoop.loopClose = 0 <;>
      simp [UvEventLoop.destroy, check, closes]
  refine ⟨?_, ?_, ?_⟩
  · rcases loopClose_eq consistent registered with
      ⟨closes, closed⟩ | ⟨busy, timer, inRange, notClosed⟩
    · rw [destroyed, if_pos closes]
      exact iff_of_true rfl closed
    · rw [destroyed, busy, if_neg (by decide)]
      refine iff_of_false (by simp) ?_
      intro closed
      rw [closed timer inRange] at notClosed
      cases notClosed
  · rcases loopClose_eq consistent registered with ⟨closes, -⟩ | ⟨busy, -⟩
    · rw [destroyed, if_pos closes]
      exact .inl rfl
    · rw [destroyed, busy, if_neg (by decide)]
      exact .inr rfl
  · intro outside
    have resting : state.self.Consistent none [] := by
      have whole : state.self.Consistent _ _ := consistent
      rcases outside with isHere | isHere <;> rwa [isHere] at whole
    constructor
    · intro rests timer inRange
      rw [sameClosed timer inRange]
      exact resting.closed_at_rest rests inRange
    · intro closed
      apply not_alive_of_closed resting
      intro timer inRange
      rw [← sameClosed timer inRange]
      exact closed timer inRange

end Running

end DkPull.Event
