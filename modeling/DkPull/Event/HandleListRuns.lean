import DkPull.Event.LinkedEventLoop
import DkPull.Event.LoopLiveness
import DkPull.Libuv.HandleLists

/-!
# An event loop on linked lists of handles

A program runs on a libuv that keeps the handles of its loop in a ring of
`queue.h` and in a list linked through `next_closing` just as on one that keeps
ordinary lists.  The links lead through timers only that have not been closed,
whose objects are still there.
-/

namespace DkPull.Event

open DkPull.Libuv
open DkPull.Reactive

private theorem handleLists_run_unlisted
    (lists : HandleLists) {calls : List TimerCall}
    (unlisted : ∀ call ∈ calls, call.isListed = false) :
    handleListCalls.run lists calls = some (lists, []) ∧
      calls.filterMap TimerCall.finished = [] := by
  induction calls with
  | nil => exact ⟨rfl, rfl⟩
  | cons call rest inductionHypothesis =>
      obtain ⟨ran, none⟩ :=
        inductionHypothesis fun other member =>
          unlisted other (List.mem_cons_of_mem call member)
      have isUnlisted := unlisted call List.mem_cons_self
      have stepped :
          handleListCalls.step lists call = some (lists, []) := by
        cases call <;> first | rfl | cases isUnlisted
      have notFinished : call.finished = Option.none := by
        cases call <;> first | rfl | cases isUnlisted
      refine ⟨?_, ?_⟩
      · exact
          Machine.run_cons_eq_some.mpr
            ⟨lists, [], [], stepped, ran, rfl⟩
      · rw [List.filterMap_cons_none notFinished, none]

section Calls

variable {eventLoop : UvEventLoop} {current : Option Nat}
  {taken internals : List Nat} {timer : Nat} {lists : HandleLists}

private theorem UvEventLoop.Consistent.notWaiting
    (consistent : eventLoop.Consistent current taken)
    (isOpen : (eventLoop.uvLoop.handles timer).closing = false) :
    timer ∉ eventLoop.uvLoop.closingHandles ++ taken := by
  intro waiting
  obtain ⟨closing, -⟩ :=
    (consistent.wellFormed.tracked timer).waiting.mp waiting
  rw [isOpen] at closing
  cases closing

private theorem UvEventLoop.Consistent.closeCalls_lists
    (consistent : eventLoop.Consistent current taken)
    (inRange : timer < eventLoop.created)
    (represents :
      lists.Represents internals eventLoop.uvLoop.handleQueue
        eventLoop.uvLoop.closingHandles taken) :
    ∃ after,
      handleListCalls.run lists (eventLoop.closeCalls timer) =
          some (after, []) ∧
        (eventLoop.closeCalls timer).filterMap TimerCall.finished = [] ∧
        after.Represents internals
          (eventLoop.closing timer).uvLoop.handleQueue
          (eventLoop.closing timer).uvLoop.closingHandles taken := by
  rw [consistent.closeCalls_eq inRange, UvEventLoop.closing_handleQueue]
  cases isOpen : (eventLoop.uvLoop.handles timer).closing with
  | true =>
      refine ⟨lists, rfl, rfl, ?_⟩
      rw [UvEventLoop.closing, if_pos isOpen]
      exact represents
  | false =>
      obtain ⟨after, stepped, follows⟩ :=
        represents.close (consistent.notWaiting isOpen) true
      have notClosing : ¬ (eventLoop.uvLoop.handles timer).closing = true := by
        rw [isOpen]
        exact Bool.false_ne_true
      refine ⟨after, ?_, rfl, ?_⟩
      · exact Machine.run_singleton.trans stepped
      · rw [UvEventLoop.closing, if_neg notClosing]
        dsimp only
        rw [Loop.enterClosing_closingHandles]
        exact follows

end Calls

/-- Closing handles do not matter to a timer that fires. -/
theorem fire_closingHandles (loop : Loop) (handle : Nat) :
    (loop.fire handle).closingHandles = loop.closingHandles := by
  unfold Loop.fire
  split
  · exact Loop.timerStop_closingHandles loop handle
  · exact Loop.timerStop_closingHandles loop handle

namespace Running

variable {state next : Running} {event : TimerEvent}
  {emitted : List TimerOutput} {internals : List Nat} {lists : HandleLists}

/-- The lists of handles are those of the loop. -/
def Listed (internals : List Nat) (lists : HandleLists) (state : Running) :
    Prop :=
  lists.Represents internals state.self.uvLoop.handleQueue
    state.self.uvLoop.closingHandles state.position.taken

private theorem Listed.of_unlisted
    (listed : Listed internals lists state)
    (unlisted : ∀ call ∈ state.libuvCalls event, call.isListed = false)
    (queue :
      next.self.uvLoop.handleQueue = state.self.uvLoop.handleQueue)
    (closing :
      next.self.uvLoop.closingHandles = state.self.uvLoop.closingHandles)
    (taken : next.position.taken = state.position.taken) :
    ∃ after,
      handleListCalls.run lists (state.libuvCalls event) =
          some
            (after,
              (state.libuvCalls event).filterMap TimerCall.finished) ∧
        Listed internals after next := by
  obtain ⟨ran, none⟩ := handleLists_run_unlisted lists unlisted
  refine ⟨lists, ?_, ?_⟩
  · rw [none]
    exact ran
  · rw [Listed, queue, closing, taken]
    exact listed

private theorem Consistent.waiting_queued
    (consistent : state.Consistent)
    (registered : ∀ timer < state.self.created, Registered state timer)
    {timer : Nat}
    (waiting :
      timer ∈ state.self.uvLoop.closingHandles ++ state.position.taken) :
    timer ∈ state.self.uvLoop.handleQueue := by
  obtain ⟨closing, notClosed⟩ :=
    (consistent.wellFormed.tracked timer).waiting.mp waiting
  exact
    (registered timer (consistent.created_of_closing closing)).queued
      notClosed

/-- Every step keeps the lists of handles. -/
theorem Moves.listed
    (moves : state.Moves event next emitted) (consistent : state.Consistent)
    (registered : ∀ timer < state.self.created, Registered state timer)
    (listed : Listed internals lists state) :
    ∃ after,
      handleListCalls.run lists (state.libuvCalls event) =
          some
            (after,
              (state.libuvCalls event).filterMap TimerCall.finished) ∧
        Listed internals after next := by
  cases moves with
  | created options _ hasCallback =>
      have blank := consistent.blank state.self.created (Nat.le_refl _)
      have fresh : state.self.created ∉ state.self.uvLoop.handleQueue :=
        fun queued => Nat.lt_irrefl _ (consistent.queued _ queued)
      have notWaiting :=
        UvEventLoop.Consistent.notWaiting consistent
          (by rw [blank] :
            (state.self.uvLoop.handles state.self.created).closing = false)
      obtain ⟨after, stepped, represents⟩ :=
        HandleLists.Represents.timerInit listed fresh notWaiting
      refine ⟨after, ?_, represents⟩
      rw [libuvCalls, if_pos hasCallback]
      exact
        Machine.run_cons_eq_some.mpr
          ⟨after, [], [], stepped, rfl, rfl⟩
  | stopped timer _ inRange unstopped =>
      obtain ⟨after, ran, none, represents⟩ :=
        UvEventLoop.Consistent.closeCalls_lists consistent inRange listed
      refine ⟨after, ?_, represents⟩
      rw [libuvCalls, unstopped, if_neg Bool.false_ne_true,
        List.filterMap_cons_none rfl, none]
      exact
        Machine.run_cons_eq_some.mpr ⟨lists, [], [], rfl, ran, rfl⟩
  | run outside =>
      refine listed.of_unlisted (by simp [libuvCalls]) rfl rfl ?_
      rw [outside]
      rfl
  | alive isHere =>
      refine
        listed.of_unlisted (by simp [libuvCalls, isHere, TimerCall.isListed])
          rfl rfl ?_
      rw [isHere]
      rfl
  | runReturned isHere =>
      refine
        listed.of_unlisted (by simp [libuvCalls, isHere, TimerCall.isListed])
          rfl rfl ?_
      rw [isHere]
      rfl
  | updated hrtime last isHere =>
      have notPolling : state.position ≠ .polling := by
        rw [isHere]
        cases last <;> simp
      refine
        listed.of_unlisted
          (by simp [libuvCalls, notPolling, TimerCall.isListed]) rfl rfl ?_
      rw [isHere]
      cases last <;> rfl
  | invoked timer last isHere =>
      refine
        listed.of_unlisted (by simp [libuvCalls, isHere, TimerCall.isListed])
          (Loop.fire_handleQueue _ _) (fire_closingHandles _ _) ?_
      rw [isHere]
      rfl
  | passed last isHere =>
      refine
        listed.of_unlisted (by simp [libuvCalls, isHere, TimerCall.isListed])
          rfl rfl ?_
      rw [isHere]
      cases last <;> rfl
  | rearmed timer last isHere repeated =>
      refine
        listed.of_unlisted (by simp [libuvCalls, isHere, repeated]) rfl rfl
          ?_
      rw [isHere]
      rfl
  | expired timer last isHere once =>
      have isCurrent : state.position.current = some timer := by
        rw [isHere]
        rfl
      have inRange := consistent.running timer isCurrent
      obtain ⟨after, ran, none, represents⟩ :=
        UvEventLoop.Consistent.closeCalls_lists consistent inRange listed
      rw [isHere] at represents
      refine ⟨after, ?_, represents⟩
      simp only [libuvCalls, isHere, once, if_true]
      rw [none]
      exact ran
  | polled hrtime isHere =>
      rw [Listed, isHere] at listed
      obtain ⟨after, stepped, represents⟩ :=
        HandleLists.Represents.takeClosing listed
      refine ⟨after, ?_, represents⟩
      rw [libuvCalls, if_pos isHere]
      exact
        Machine.run_cons_eq_some.mpr
          ⟨lists, [], [], rfl,
            Machine.run_cons_eq_some.mpr
              ⟨lists, [], [], rfl, Machine.run_singleton.trans stepped, rfl⟩,
            rfl⟩
  | finished timer rest isHere =>
      have waiting :
          timer ∈
            state.self.uvLoop.closingHandles ++ state.position.taken := by
        rw [isHere]
        exact List.mem_append_right _ List.mem_cons_self
      have queued := consistent.waiting_queued registered waiting
      rw [Listed, isHere] at listed
      obtain ⟨after, stepped, represents⟩ :=
        HandleLists.Represents.finishClose listed queued timer
      refine ⟨after, ?_, represents⟩
      simp only [libuvCalls, isHere]
      exact Machine.run_singleton.trans stepped
  | closedAll isHere =>
      refine listed.of_unlisted (by simp [libuvCalls, isHere]) rfl rfl ?_
      rw [isHere]
      rfl

/-- Along a run the lists of handles are those of the loop, and the handles
that are worked off are those that the program works off. -/
theorem listed_of_run
    (memory : HandleLists) (distinct : internals.Nodup) {hrtime : UInt64}
    {events : List TimerEvent} {outputs : List TimerOutput}
    (ran :
      timerMachine.run (Running.init hrtime) events =
        some (state, outputs))
    (unfailed : Unfailed outputs) :
    ∃ lists,
      handleListCalls.run (HandleLists.init memory internals)
            (timerMachine.callsOf libuvCalls (Running.init hrtime) events) =
          some
            (lists,
              (timerMachine.callsOf libuvCalls (Running.init hrtime)
                events).filterMap TimerCall.finished) ∧
        Listed internals lists state := by
  refine
    Machine.history_invariant
      (fun history outputs state =>
        Unfailed outputs →
          ∃ lists,
            handleListCalls.run (HandleLists.init memory internals)
                  (timerMachine.callsOf libuvCalls (Running.init hrtime)
                    history) =
                some
                  (lists,
                    (timerMachine.callsOf libuvCalls (Running.init hrtime)
                      history).filterMap TimerCall.finished) ∧
              Listed internals lists state)
      ?_ ?_ ran unfailed
  · intro _
    exact ⟨_, rfl, HandleLists.Represents.init memory distinct⟩
  · intro history outputs state event next emitted front earlier stepped
      unfailed
    obtain ⟨before, now⟩ := (unfailed_append_iff _ _).mp unfailed
    obtain ⟨lists, listsRan, listed⟩ := earlier before
    have consistent := consistent_of_unfailed front before
    rcases consistent.moves stepped with ⟨moves, -⟩ | ⟨refused, -⟩
    · obtain ⟨after, ranNow, nowListed⟩ :=
        moves.listed consistent (registered_of_unfailed front before) listed
      refine ⟨after, ?_, nowListed⟩
      rw [Machine.callsOf_concat front stepped, List.filterMap_append]
      exact
        Machine.run_append_eq_some.mpr ⟨_, _, _, listsRan, ranNow, rfl⟩
    · obtain ⟨failure, rfl⟩ := refused.fails
      exact absurd (by simp) (now failure)

/-- Whatever a program does with its timers, the ring of its handles goes
through the internal handles and the timers whose objects are still there, and
the list of the closing handles through those of them that wait to be closed.
`uv__run_closing_handles` works off the handles that the program closes, and
the walk of `uv_loop_close` along the ring ends. -/
theorem runs_on_handle_lists
    (memory : HandleLists) (distinct : internals.Nodup) {hrtime : UInt64}
    {events : List TimerEvent} {outputs : List TimerOutput}
    (ran :
      timerMachine.run (Running.init hrtime) events =
        some (state, outputs))
    (unfailed : Unfailed outputs) :
    ∃ lists,
      handleListCalls.run (HandleLists.init memory internals)
            (timerMachine.callsOf libuvCalls (Running.init hrtime) events) =
          some
            (lists,
              (timerMachine.callsOf libuvCalls (Running.init hrtime)
                events).filterMap TimerCall.finished) ∧
        lists.Represents internals state.self.uvLoop.handleQueue
          state.self.uvLoop.closingHandles state.position.taken ∧
        (∀ timer ∈
            state.self.uvLoop.closingHandles ++ state.position.taken,
          timer ∈ state.self.uvLoop.handleQueue) ∧
        (∀ timer,
          timer ∈ state.self.uvLoop.handleQueue ↔
            timer < state.self.created ∧
              (state.self.timers timer).self = true) ∧
        ∀ turns,
          internals.length + state.self.uvLoop.handleQueue.length < turns →
            lists.loopClose turns = some state.self.uvLoop.loopClose := by
  have consistent := consistent_of_unfailed ran unfailed
  have registered := registered_of_unfailed ran unfailed
  obtain ⟨lists, listsRan, listed⟩ :=
    listed_of_run memory distinct ran unfailed
  refine ⟨lists, listsRan, listed, ?_, ?_, ?_⟩
  · exact fun timer waiting => consistent.waiting_queued registered waiting
  · intro timer
    constructor
    · intro queued
      have inRange := consistent.queued timer queued
      rw [(consistent.coherent timer inRange).self,
        (consistent.wellFormed.tracked timer).queued queued]
      exact ⟨inRange, rfl⟩
    · rintro ⟨inRange, isThere⟩
      apply (registered timer inRange).queued
      rw [(consistent.coherent timer inRange).self] at isThere
      simpa using isThere
  · exact fun turns enough =>
      HandleLists.Represents.loopClose_eq listed enough

/-- The first of two timers fires and is closed. -/
def finishesFirst : List TimerEvent :=
  [.create (UvEventLoop.timeoutOptions 0 true),
    .create (UvEventLoop.timeoutOptions 5 true), .run, .proceed, .clock 0,
    .proceed, .returned, .proceed, .clock 1000000, .proceed]

private theorem finishesFirst_run :
    ∃ state,
      timerMachine.run (Running.init 0) finishesFirst =
          some
            (state, [.created 0 0, .created 1 0, .invoked 0 0]) ∧
        state.self.uvLoop.handleQueue = [1] ∧
        state.self.uvLoop.loopClose = UV_EBUSY ∧
        (timerMachine.callsOf libuvCalls (Running.init 0)
          finishesFirst).filterMap TimerCall.finished = [0] :=
  ⟨_, rfl, rfl, rfl, rfl⟩

theorem runs_on_handle_lists_finishesFirst :
    ∃ lists,
      handleListCalls.run
            (HandleLists.init ⟨⟨id, id⟩, fun _ => none, none, none⟩ [0, 1])
            (timerMachine.callsOf libuvCalls (Running.init 0)
              finishesFirst) =
          some (lists, [0]) ∧
        lists.loopClose 4 = some UV_EBUSY := by
  obtain ⟨state, ran, queue, busy, finished⟩ := finishesFirst_run
  obtain ⟨lists, listsRan, -, -, -, closes⟩ :=
    runs_on_handle_lists ⟨⟨id, id⟩, fun _ => none, none, none⟩
      (by decide : [0, 1].Nodup) ran (by simp [Unfailed])
  rw [finished] at listsRan
  rw [queue, busy] at closes
  exact ⟨lists, listsRan, closes 4 (by decide)⟩

end Running

end DkPull.Event
