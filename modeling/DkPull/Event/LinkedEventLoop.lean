import DkPull.Event.TimerPass
import DkPull.Libuv.LinkedLoopRuns
import DkPull.Reactive.Calls

/-!
# An event loop on a linked heap

The event loop reads and writes its timers by calls of libuv only.  So a
program runs on a libuv that keeps its timers in the heap of `heap-inl.h` just
as on one that keeps a list of them: all calls get the same results, and the
timers come from the heap in the order in which their callbacks are called.
-/

namespace DkPull.Event

open DkPull.Libuv
open DkPull.Reactive

def UvEventLoop.closeCalls (eventLoop : UvEventLoop) (timer : Nat) :
    List TimerCall :=
  if (eventLoop.timers timer).closed ||
      (eventLoop.uvLoop.handles timer).isClosing then []
  else [.close timer (eventLoop.timers timer).started]

namespace Running

/-- The calls of libuv, and inside of it, that a step makes. -/
def libuvCalls (state : Running) : TimerEvent → List TimerCall
  | .create options =>
      if options.callback then
        [.timerInit state.self.created,
          .timerStart state.self.created options.delay
            options.type.repeatTime]
      else []
  | .stop timer =>
      if (state.self.timers timer).stopped then []
      else .timerStop timer :: state.self.closeCalls timer
  | .clock hrtime =>
      if state.position = .polling then
        [.backendTimeout, .updateTime hrtime, .takeClosing]
      else [.updateTime hrtime]
  | .returned =>
      match state.position with
      | .inCallback timer _ =>
          if (state.self.timers timer).type = .oneTime then
            state.self.closeCalls timer
          else []
      | _ => []
  | .proceed =>
      match state.position with
      | .whileAlive => [.alive]
      | .runTimers _ => [.nextTimer]
      | .closingHandles (timer :: _) => [.finishClose timer]
      | _ => []
  | .run => []

end Running

/-- Every call of libuv succeeds, and the timers taken from the heap are those
whose callbacks are called. -/
structure Answered
    (outputs : List TimerOutput) (results : List TimerResult) : Prop where
  taken : results.filterMap TimerResult.taken = called outputs
  succeeded : ∀ assertion, .failed assertion ∉ results

private theorem Answered.append
    {early late : List TimerOutput} {answered answers : List TimerResult}
    (before : Answered early answered) (now : Answered late answers) :
    Answered (early ++ late) (answered ++ answers) where
  taken := by
    rw [List.filterMap_append, called_append, before.taken, now.taken]
  succeeded := by
    intro assertion member
    rcases List.mem_append.mp member with isBefore | isNow
    · exact before.succeeded assertion isBefore
    · exact now.succeeded assertion isNow

namespace UvEventLoop

variable {eventLoop : UvEventLoop} {current : Option Nat}
  {taken : List Nat} {timer : Nat}

theorem Consistent.closeCalls_eq
    (consistent : eventLoop.Consistent current taken)
    (inRange : timer < eventLoop.created) :
    eventLoop.closeCalls timer =
      if (eventLoop.uvLoop.handles timer).closing then []
      else [.close timer true] := by
  have started := (consistent.coherent timer inRange).started
  have isClosing := consistent.wellFormed.isClosing_eq timer
  rw [closeCalls, isClosing, started]
  cases isOpen : (eventLoop.uvLoop.handles timer).closing with
  | true => simp
  | false =>
      have notClosed : (eventLoop.timers timer).closed = false := by
        rw [← Bool.not_eq_true]
        intro closed
        rw [consistent.closing_of_closed inRange closed] at isOpen
        cases isOpen
      simp [notClosed]

private theorem Consistent.closeCalls_run
    (consistent : eventLoop.Consistent current taken)
    (inRange : timer < eventLoop.created) :
    timerCalls.run eventLoop.uvLoop (eventLoop.closeCalls timer) =
      some ((eventLoop.closing timer).uvLoop, []) := by
  have isClosing := consistent.wellFormed.isClosing_eq timer
  rw [consistent.closeCalls_eq inRange, UvEventLoop.closing]
  cases isOpen : (eventLoop.uvLoop.handles timer).closing with
  | true => rfl
  | false =>
      rw [isOpen] at isClosing
      simp [Machine.run_singleton, timerCalls, Loop.close_of_open isClosing]

private theorem Consistent.stopCalls_run
    (consistent : eventLoop.Consistent current taken)
    (inRange : timer < eventLoop.created) :
    timerCalls.run eventLoop.uvLoop
        (.timerStop timer :: eventLoop.closeCalls timer) =
      some ((eventLoop.stopping timer).uvLoop, [.code 0]) := by
  have isClosing := consistent.wellFormed.isClosing_eq timer
  refine
    Machine.run_cons_eq_some.mpr
      ⟨eventLoop.uvLoop.timerStop timer, [.code 0], [], rfl, ?_, rfl⟩
  change _ = some ((eventLoop.closing timer).uvLoop, [])
  rw [consistent.closeCalls_eq inRange, UvEventLoop.closing]
  cases isOpen : (eventLoop.uvLoop.handles timer).closing with
  | true =>
      have inactive :=
        (consistent.wellFormed.tracked timer).inactive_of_closing isOpen
      rw [Loop.timerStop_of_inactive inactive]
      rfl
  | false =>
      rw [isOpen] at isClosing
      have stillOpen :
          ((eventLoop.uvLoop.timerStop timer).handles timer).isClosing =
            false := by
        simpa [Handle.isClosing] using isClosing
      simp [Machine.run_singleton, timerCalls, Loop.close_of_open stillOpen,
        Loop.timerStop_enterClosing]

private theorem Consistent.createCalls_run
    (consistent : eventLoop.Consistent current taken)
    (options : TimerOptions) :
    timerCalls.run eventLoop.uvLoop
        [.timerInit eventLoop.created,
          .timerStart eventLoop.created options.delay
            options.type.repeatTime] =
      some ((eventLoop.withTimer options).uvLoop, [.code 0, .code 0]) := by
  have blank := consistent.blank eventLoop.created (Nat.le_refl _)
  have fresh :
      (eventLoop.uvLoop.timerInit eventLoop.created).handles
        eventLoop.created = {} := by
    refine (Function.update_self _ _ _).trans ?_
    rw [blank]
    rfl
  have isOpen :
      ((eventLoop.uvLoop.timerInit eventLoop.created).handles
        eventLoop.created).isClosing = false := by
    rw [fresh]
    rfl
  have inactive :
      ((eventLoop.uvLoop.timerInit eventLoop.created).handles
        eventLoop.created).active = false := by
    rw [fresh]
  refine
    Machine.run_cons_eq_some.mpr
      ⟨eventLoop.uvLoop.timerInit eventLoop.created, [.code 0], [.code 0],
        ?_, ?_, rfl⟩
  · simp [timerCalls, blank]
  · rw [Machine.run_singleton]
    simp only [timerCalls, Loop.timerStart_of_open isOpen,
      Loop.timerStop_of_inactive inactive]
    rfl

end UvEventLoop

namespace Running

variable {state next : Running} {event : TimerEvent}
  {emitted : List TimerOutput}

/-- The calls of a step take libuv from what it was to what it is behind the
step. -/
theorem Moves.libuvCalls_run
    (moves : state.Moves event next emitted) (consistent : state.Consistent) :
    ∃ results,
      timerCalls.run state.self.uvLoop (state.libuvCalls event) =
          some (next.self.uvLoop, results) ∧
        Answered emitted results := by
  cases moves with
  | created options _ hasCallback =>
      refine ⟨[.code 0, .code 0], ?_, rfl, by simp⟩
      rw [libuvCalls, if_pos hasCallback]
      exact consistent.createCalls_run options
  | stopped timer _ inRange unstopped =>
      refine ⟨[.code 0], ?_, rfl, by simp⟩
      rw [libuvCalls, unstopped, if_neg Bool.false_ne_true]
      exact consistent.stopCalls_run inRange
  | run => exact ⟨[], rfl, rfl, by simp⟩
  | alive isHere =>
      refine ⟨[.alive state.self.uvLoop.alive], ?_, rfl, by simp⟩
      simp only [libuvCalls, isHere]
      rfl
  | runReturned isHere =>
      refine ⟨[.alive state.self.uvLoop.alive], ?_, rfl, by simp⟩
      simp only [libuvCalls, isHere]
      rfl
  | updated hrtime last isHere =>
      have notPolling : state.position ≠ .polling := by
        rw [isHere]
        cases last <;> simp
      refine ⟨[], ?_, rfl, by simp⟩
      rw [libuvCalls, if_neg notPolling]
      rfl
  | invoked timer last isHere least due =>
      have found :
          state.self.uvLoop.nextTimer =
            some (timer, state.self.uvLoop.fire timer) := by
        cases found : state.self.uvLoop.nextTimer with
        | none =>
            have early :=
              Loop.nextTimer_eq_none_iff.mp found timer
                (Loop.mem_of_heapMin least)
            exact absurd early (UInt64.not_lt.mpr due)
        | some fired =>
            obtain ⟨other, uvLoop⟩ := fired
            obtain ⟨isLeast, -, rfl⟩ := consistent.nextTimer_least found
            rw [least] at isLeast
            cases isLeast
            rfl
      refine ⟨[.next (some timer)], ?_, rfl, by simp⟩
      simp only [libuvCalls, isHere, Machine.run_singleton, timerCalls, found]
  | passed last isHere noneDue =>
      refine ⟨[.next none], ?_, rfl, by simp⟩
      simp only [libuvCalls, isHere, Machine.run_singleton, timerCalls,
        noneDue]
  | rearmed timer last isHere repeated =>
      refine ⟨[], ?_, rfl, by simp⟩
      simp [libuvCalls, isHere, repeated]
  | expired timer last isHere once =>
      have isCurrent : state.position.current = some timer := by
        rw [isHere]
        rfl
      have inRange := consistent.running timer isCurrent
      refine ⟨[], ?_, rfl, by simp⟩
      simp only [libuvCalls, isHere, once, if_true]
      exact consistent.closeCalls_run inRange
  | polled hrtime isHere =>
      refine ⟨[.timeout state.self.uvLoop.backendTimeout], ?_, rfl, by simp⟩
      rw [libuvCalls, if_pos isHere]
      rfl
  | finished timer rest isHere =>
      have wellFormed : state.self.uvLoop.WellFormed (timer :: rest) := by
        have whole := consistent.wellFormed
        rwa [isHere] at whole
      refine ⟨[], ?_, rfl, by simp⟩
      simp only [libuvCalls, isHere, Machine.run_singleton, timerCalls,
        wellFormed.finishClose_taken]
      rfl
  | closedAll isHere =>
      refine ⟨[], ?_, rfl, by simp⟩
      simp [libuvCalls, isHere]

/-- A check that fails has left libuv alone. -/
theorem Refused.libuvCalls_run
    (refused : state.Refused event emitted) (consistent : state.Consistent)
    (stepped : timerMachine.step state event = some (next, emitted)) :
    state.libuvCalls event = [] ∧ next.self = state.self ∧
      called emitted = [] := by
  cases refused with
  | callbackIsNull options noCallback =>
      have failed :
          UvEventLoop.createTimer options state.self =
            (.error .callbackIsNull, state.self) := by
        simp [UvEventLoop.createTimer, UvTimer.create, UvTimer.construct,
          check, noCallback]
      simp only [timerMachine, perform_of_error failed] at stepped
      split at stepped
      · cases stepped
        exact ⟨by simp [libuvCalls, noCallback], rfl, rfl⟩
      · cases stepped
  | alreadyStopped timer inRange isStopped =>
      have failed :=
        UvEventLoop.Consistent.stop_run_again consistent inRange isStopped
      simp only [timerMachine, perform_of_error failed] at stepped
      split at stepped
      · cases stepped
        exact ⟨by simp [libuvCalls, isStopped], rfl, rfl⟩
      · cases stepped

private theorem libuvCalls_of_step
    {hrtime : UInt64} {history : List TimerEvent}
    {outputs : List TimerOutput}
    (ran :
      timerMachine.run (Running.init hrtime) history =
        some (state, outputs))
    (stepped : timerMachine.step state event = some (next, emitted)) :
    ∃ results,
      timerCalls.run state.self.uvLoop (state.libuvCalls event) =
          some (next.self.uvLoop, results) ∧
        Answered emitted results := by
  have consistent :=
    consistent_of_unfailed ran (unfailed_of_step ran stepped)
  rcases consistent.moves stepped with ⟨moves, -⟩ | ⟨refused, -⟩
  · exact moves.libuvCalls_run consistent
  · obtain ⟨none, same, silent⟩ := refused.libuvCalls_run consistent stepped
    refine ⟨[], ?_, silent.symm, by simp⟩
    rw [none, same]
    rfl

private theorem started_closeCalls
    (eventLoop : UvEventLoop) (timer : Nat) :
    ∀ call ∈ eventLoop.closeCalls timer, call.started = none := by
  intro call member
  rw [UvEventLoop.closeCalls] at member
  split at member
  · cases member
  · rw [List.mem_singleton.mp member]
    rfl

/-- Only the timer that is created is started. -/
theorem started_libuvCalls
    {call : TimerCall} {timer : Nat} (member : call ∈ state.libuvCalls event)
    (started : call.started = some timer) :
    timer = state.self.created ∧
      ∃ options, event = .create options ∧ options.callback = true := by
  have noneStarted :
      ∀ other, call ∉ state.self.closeCalls other := by
    intro other closes
    rw [started_closeCalls state.self other call closes] at started
    cases started
  cases event with
  | create options =>
      rw [libuvCalls] at member
      split at member
      · rename_i hasCallback
        rcases List.mem_pair.mp member with rfl | rfl
        · cases started
        · cases started
          exact ⟨rfl, options, rfl, hasCallback⟩
      · cases member
  | stop other =>
      rw [libuvCalls] at member
      split at member
      · cases member
      · rcases List.mem_cons.mp member with rfl | closes
        · cases started
        · exact absurd closes (noneStarted other)
  | run => cases member
  | clock hrtime =>
      rw [libuvCalls] at member
      split at member
      · simp only [List.mem_cons, List.not_mem_nil, or_false] at member
        rcases member with rfl | rfl | rfl <;> cases started
      · rw [List.mem_singleton.mp member] at started
        cases started
  | returned =>
      simp only [libuvCalls] at member
      split at member
      · split at member
        · exact absurd member (noneStarted _)
        · cases member
      · cases member
  | proceed =>
      simp only [libuvCalls] at member
      split at member
      · rw [List.mem_singleton.mp member] at started
        cases started
      · rw [List.mem_singleton.mp member] at started
        cases started
      · rw [List.mem_singleton.mp member] at started
        cases started
      · cases member

/-- A step takes one number from the counter of the loop at most. -/
theorem countP_libuvCalls_le (state : Running) (event : TimerEvent) :
    (state.libuvCalls event).countP TimerCall.takesNumber ≤ 1 := by
  have closes :
      ∀ timer,
        (state.self.closeCalls timer).countP TimerCall.takesNumber = 0 := by
    intro timer
    rw [UvEventLoop.closeCalls]
    split <;> rfl
  cases event with
  | stop timer =>
      rw [libuvCalls]
      split
      · exact Nat.zero_le _
      · rw [List.countP_cons, closes]
        exact Nat.zero_le _
  | returned =>
      simp only [libuvCalls]
      split
      · split
        · rw [closes]
          exact Nat.zero_le _
        · exact Nat.zero_le _
      · exact Nat.zero_le _
  | proceed =>
      simp only [libuvCalls]
      split <;> simp [TimerCall.takesNumber]
  | run => exact Nat.zero_le _
  | _ =>
      rw [libuvCalls]
      split <;> simp [TimerCall.takesNumber]

/-- Every timer that is created takes the next number. -/
theorem created_of_moves (moves : state.Moves event next emitted) :
    state.self.created ≤ next.self.created ∧
      ∀ options, event = .create options →
        state.self.created < next.self.created := by
  cases moves with
  | created => exact ⟨Nat.le_succ _, fun _ _ => Nat.lt_succ_self _⟩
  | stopped => simp
  | expired => simp
  | _ => exact ⟨Nat.le_refl _, fun _ isCreate => by cases isCreate⟩

theorem created_of_step
    {hrtime : UInt64} {history : List TimerEvent}
    {outputs : List TimerOutput}
    (ran :
      timerMachine.run (Running.init hrtime) history =
        some (state, outputs))
    (stepped : timerMachine.step state event = some (next, emitted)) :
    state.self.created ≤ next.self.created ∧
      (event.isInternal = true →
        next.self.created = state.self.created) := by
  have consistent :=
    consistent_of_unfailed ran (unfailed_of_step ran stepped)
  rcases consistent.moves stepped with ⟨moves, -⟩ | ⟨refused, -⟩
  · refine ⟨(created_of_moves moves).1, ?_⟩
    intro isInternal
    cases moves with
    | created => cases isInternal
    | stopped => cases isInternal
    | expired => simp
    | _ => rfl
  · obtain ⟨-, same, -⟩ := refused.libuvCalls_run consistent stepped
    rw [same]
    exact ⟨Nat.le_refl _, fun _ => rfl⟩

theorem created_le_of_run
    {hrtime : UInt64} {events later : List TimerEvent}
    {outputs : List TimerOutput} {final : Running}
    (ran :
      timerMachine.run (Running.init hrtime) events =
        some (state, outputs))
    (continued : timerMachine.run state later = some (final, emitted)) :
    state.self.created ≤ final.self.created := by
  refine
    Machine.history_invariant
      (fun _ _ reached => state.self.created ≤ reached.self.created)
      (Nat.le_refl _) ?_ continued
  intro history said reached event following now front grown stepped
  have whole := Machine.run_append_eq_some.mpr ⟨_, _, _, ran, front, rfl⟩
  exact grown.trans (created_of_step whole stepped).1

/-! ## Whole runs -/

/-- All handles that are started in a run belong to its timers. -/
theorem started_lt_created
    {hrtime : UInt64} {events : List TimerEvent}
    {outputs : List TimerOutput}
    (ran :
      timerMachine.run (Running.init hrtime) events =
        some (state, outputs)) :
    ∀ call ∈
        timerMachine.callsOf libuvCalls (Running.init hrtime) events,
      ∀ timer, call.started = some timer → timer < state.self.created := by
  refine
    Machine.forall_mem_callsOf
      (fun (state : Running) (call : TimerCall) =>
        ∀ timer, call.started = some timer → timer < state.self.created)
      ?_ ran
  intro history outputs state event next emitted front stepped
  have consistent :=
    consistent_of_unfailed front (unfailed_of_step front stepped)
  rcases consistent.moves stepped with ⟨moves, -⟩ | ⟨refused, -⟩
  · have grown := created_of_moves moves
    refine ⟨?_, ?_⟩
    · intro call earlier timer started
      exact (earlier timer started).trans_le grown.1
    · intro call member timer started
      obtain ⟨rfl, options, rfl, hasCallback⟩ :=
        started_libuvCalls member started
      exact grown.2 options rfl
  · obtain ⟨none, same, -⟩ := refused.libuvCalls_run consistent stepped
    refine ⟨?_, ?_⟩
    · intro call earlier timer started
      rw [same]
      exact earlier timer started
    · intro call member
      rw [none] at member
      cases member

/-- The calls of libuv that a run has made get the same results from `linked`,
a loop with a linked heap and with counters of 32 bits.  The timers are taken
from its heap in the order in which their callbacks are called, and no assertion
of libuv fails. -/
structure LinkedRun
    (nodes : Nat → HeapNode Nat) (hrtime : UInt64)
    (events : List TimerEvent) (state : Running)
    (outputs : List TimerOutput) (linked : LinkedLoop) : Prop where
  answered :
    ∃ results,
      timerCalls.run (Loop.init hrtime)
            (timerMachine.callsOf libuvCalls (Running.init hrtime) events) =
          some (state.self.uvLoop, results) ∧
        linkedTimerCalls.run (LinkedLoop.init nodes hrtime)
            (timerMachine.callsOf libuvCalls (Running.init hrtime) events) =
          some (linked, results) ∧
        Answered outputs results
  represents : linked.Represents state.self.uvLoop

/-- Every run is one on a linked heap, as long as its counters do not wrap. -/
theorem exists_linkedRun
    (nodes : Nat → HeapNode Nat) {hrtime : UInt64}
    {events : List TimerEvent} {outputs : List TimerOutput}
    (ran :
      timerMachine.run (Running.init hrtime) events =
        some (state, outputs))
    (fewEvents : events.length < 2 ^ 64)
    (fewTimers : state.self.created < 2 ^ 32) :
    ∃ linked, LinkedRun nodes hrtime events state outputs linked := by
  obtain ⟨results, onList, answered⟩ :=
    Machine.run_callsOf (fun state => state.self.uvLoop) Answered
      ⟨rfl, by simp⟩ (fun _ _ _ _ before now => before.append now)
      (fun _ _ _ _ _ _ front stepped => libuvCalls_of_step front stepped)
      ran
  have fewNumbers :=
    timerMachine.countP_callsOf_le countP_libuvCalls_le
      (Running.init hrtime) events
  have inRange := started_lt_created ran
  obtain ⟨-, linked, onHeap, represents⟩ :=
    LinkedLoop.represents_of_run nodes hrtime onList
      (fun call member timer started => by
        have small := inRange call member timer started
        rw [LinkedLoop.handleLimit]
        omega)
      (Nat.lt_of_le_of_lt fewNumbers fewEvents)
  exact ⟨linked, ⟨results, onList, onHeap, answered⟩, represents⟩

/-- Whatever a program does with its timers, all of its calls of libuv get the
same results from a loop with a linked heap as from the list of its members.
The timers are taken from the heap in the order in which their callbacks are
called, no assertion of libuv fails, and no null pointer is followed. -/
theorem runs_on_linked_heap
    (nodes : Nat → HeapNode Nat) {hrtime : UInt64}
    {events : List TimerEvent} {outputs : List TimerOutput}
    (fewEvents : events.length < 2 ^ 64)
    (ran :
      timerMachine.run (Running.init hrtime) events =
        some (state, outputs))
    (fewTimers : state.self.created < 2 ^ 32) :
    ∃ linked results,
      timerCalls.run (Loop.init hrtime)
            (timerMachine.callsOf libuvCalls (Running.init hrtime) events) =
          some (state.self.uvLoop, results) ∧
        linkedTimerCalls.run (LinkedLoop.init nodes hrtime)
            (timerMachine.callsOf libuvCalls (Running.init hrtime) events) =
          some (linked, results) ∧
        results.filterMap TimerResult.taken = called outputs ∧
        (∀ assertion, .failed assertion ∉ results) ∧
        linked.toLoop state.self.uvLoop.timerHeap = state.self.uvLoop ∧
        linked.timerHeap.Holds
          (fun timer => (state.self.uvLoop.handles timer).key)
          { timer |
            (state.self.uvLoop.handles timer).active = true } := by
  obtain ⟨linked, ⟨results, onList, onHeap, answered⟩, represents⟩ :=
    exists_linkedRun nodes ran fewEvents fewTimers
  exact
    ⟨linked, results, onList, onHeap, answered.taken, answered.succeeded,
      represents.fields, represents.holds_active⟩

/-- Two timers are due when the clock is read, the second one earlier than the
first. -/
def dueTogether : List TimerEvent :=
  [.create (UvEventLoop.timeoutOptions 2 true),
    .create (UvEventLoop.timeoutOptions 1 true), .run, .proceed,
    .clock 2000000, .proceed, .returned]

theorem runs_on_linked_heap_dueTogether :
    ∃ linked results,
      linkedTimerCalls.run (LinkedLoop.init (fun _ => {}) 0)
            (timerMachine.callsOf libuvCalls (Running.init 0) dueTogether) =
          some (linked, results) ∧
        results.filterMap TimerResult.taken = [1] := by
  obtain ⟨state, ran, few⟩ :
      ∃ state,
        timerMachine.run (Running.init 0) dueTogether =
            some (state, [.created 0 0, .created 1 0, .invoked 1 2]) ∧
          state.self.created < 2 ^ 32 :=
    ⟨_, rfl, by decide⟩
  obtain ⟨linked, results, -, onHeap, taken, -⟩ :=
    runs_on_linked_heap (fun _ => {}) (by decide) ran few
  exact ⟨linked, results, onHeap, taken⟩

end Running

end DkPull.Event
