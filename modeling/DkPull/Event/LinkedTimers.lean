import DkPull.Event.LinkedEventLoop
import DkPull.Event.LoopLiveness
import DkPull.Event.TimerTermination

/-!
# Timers on a libuv that counts with 32 bits

The heap of libuv and the counter of its active handles hold an `unsigned int`
each.  What has been proved of runs on a loop without such limits is carried
over here to the linked heap and its counters, for all runs with fewer than
`2 ^ 32` timers.
-/

namespace DkPull.Event

open DkPull.Libuv
open DkPull.Reactive

namespace Running

variable {nodes : Nat → HeapNode Nat} {hrtime : UInt64}
  {events later : List TimerEvent} {event : TimerEvent}
  {outputs emitted : List TimerOutput} {state next final : Running}
  {linked : LinkedLoop} {timer : Nat}

private theorem LinkedRun.handles
    (carried : LinkedRun nodes hrtime events state outputs linked) :
    linked.handles = state.self.uvLoop.handles :=
  congrArg Loop.handles carried.represents.fields

private theorem LinkedRun.time
    (carried : LinkedRun nodes hrtime events state outputs linked) :
    linked.time = state.self.uvLoop.time :=
  congrArg Loop.time carried.represents.fields

private theorem LinkedRun.closingHandles
    (carried : LinkedRun nodes hrtime events state outputs linked) :
    linked.closingHandles = state.self.uvLoop.closingHandles :=
  congrArg Loop.closingHandles carried.represents.fields

/-- A run and its continuation on the same linked heap. -/
theorem exists_linkedRun_append
    (nodes : Nat → HeapNode Nat)
    (ran :
      timerMachine.run (Running.init hrtime) events =
        some (state, outputs))
    (continued : timerMachine.run state later = some (final, emitted))
    (fewEvents : events.length + later.length < 2 ^ 64)
    (fewTimers : final.self.created < 2 ^ 32) :
    (∃ linked, LinkedRun nodes hrtime events state outputs linked) ∧
      ∃ after,
        LinkedRun nodes hrtime (events ++ later) final (outputs ++ emitted)
          after := by
  have grown := created_le_of_run ran continued
  have whole :=
    Machine.run_append_eq_some.mpr ⟨_, _, _, ran, continued, rfl⟩
  refine
    ⟨exists_linkedRun nodes ran (by omega) (by omega),
      exists_linkedRun nodes whole ?_ fewTimers⟩
  rw [List.length_append]
  exact fewEvents

/-! ## Order and completeness -/

/-- When the heap hands out a timer that fires once, it is due, and all timers
before it in the order of the times at which they are due, and of their
creation, have fired or been stopped. -/
theorem linked_fires_in_order
    (nodes : Nat → HeapNode Nat)
    (ran :
      timerMachine.run (Running.init hrtime) events =
        some (state, outputs))
    {time due : UInt64}
    (stepped :
      timerMachine.step state event = some (next, [.invoked timer time]))
    (fewEvents : events.length + 1 < 2 ^ 64)
    (fewTimers : next.self.created < 2 ^ 32)
    (isDue : DueAt events outputs timer due) :
    ∃ linked,
      LinkedRun nodes hrtime (events ++ [event]) next
          (outputs ++ [.invoked timer time]) linked ∧
        due ≤ time ∧
        ∀ other otherDue,
          DueAt events outputs other otherDue →
          .stop other ∉ events →
          otherDue < due ∨ otherDue = due ∧ other < timer →
            (invocations other outputs).length = 1 := by
  have continued := Machine.run_singleton.trans stepped
  obtain ⟨-, linked, carried⟩ :=
    exists_linkedRun_append nodes ran continued fewEvents fewTimers
  exact
    ⟨linked, carried, timers_fire_in_order ran (by omega) stepped isDue⟩

private theorem dueTogether_run :
    ∃ state next,
      timerMachine.run (Running.init 0) dueTogether =
          some (state, [.created 0 0, .created 1 0, .invoked 1 2]) ∧
        timerMachine.step state .proceed = some (next, [.invoked 0 2]) ∧
        next.self.created < 2 ^ 32 :=
  ⟨_, _, rfl, rfl, by decide⟩

theorem linked_fires_in_order_dueTogether :
    ∃ state next outputs,
      timerMachine.run (Running.init 0) dueTogether =
          some (state, outputs) ∧
        timerMachine.step state .proceed = some (next, [.invoked 0 2]) ∧
        (invocations 1 outputs).length = 1 := by
  obtain ⟨state, next, ran, stepped, few⟩ := dueTogether_run
  refine ⟨state, next, _, ran, stepped, ?_⟩
  have first :
      DueAt dueTogether [.created 0 0, .created 1 0, .invoked 1 2] 0 2 :=
    ⟨UvEventLoop.timeoutOptions 2 true, 0, rfl, rfl, by simp, by decide⟩
  have second :
      DueAt dueTogether [.created 0 0, .created 1 0, .invoked 1 2] 1 1 :=
    ⟨UvEventLoop.timeoutOptions 1 true, 0, rfl, rfl, by simp, by decide⟩
  obtain ⟨-, -, -, before⟩ :=
    linked_fires_in_order (fun _ => {}) ran stepped (by decide) few first
  exact before 1 1 second (by decide) (.inl (by decide))

/-- When a pass over the heap ends, every timer that fires once and is due has
been called exactly once unless it has been stopped, and no active timer is
due. -/
theorem linked_none_due_behind_pass
    (nodes : Nat → HeapNode Nat)
    (ran :
      timerMachine.run (Running.init hrtime) events =
        some (state, outputs))
    {last : Bool} (isHere : state.position = .runTimers last)
    (stepped : timerMachine.step state .proceed = some (next, []))
    (fewEvents : events.length + 1 < 2 ^ 64)
    (fewTimers : next.self.created < 2 ^ 32) :
    ∃ linked,
      LinkedRun nodes hrtime (events ++ [.proceed]) next outputs linked ∧
        (∀ timer due,
          DueAt events outputs timer due →
          .stop timer ∉ events →
          due ≤ linked.time →
            (invocations timer outputs).length = 1) ∧
        ∀ timer,
          (linked.handles timer).active = true →
            linked.time < (linked.handles timer).timeout := by
  have continued := Machine.run_singleton.trans stepped
  obtain ⟨-, linked, carried⟩ :=
    exists_linkedRun_append nodes ran continued fewEvents fewTimers
  rw [List.append_nil] at carried
  have consistent :=
    consistent_of_unfailed ran (unfailed_of_step ran stepped)
  have sameTime : next.self.uvLoop.time = state.self.uvLoop.time := by
    rcases consistent.moves stepped with ⟨moves, -⟩ | ⟨refused, -⟩
    · exact moves.same_time (by simp)
    · obtain ⟨failure, impossible⟩ := refused.fails
      cases impossible
  obtain ⟨called, noneDue⟩ :=
    none_due_behind_pass ran (by omega) isHere stepped
  refine ⟨linked, carried, ?_, ?_⟩
  · rw [carried.time, sameTime]
    exact called
  · rw [carried.handles, carried.time]
    exact noneDue

private theorem dueTogether_run_passed :
    ∃ state next,
      timerMachine.run (Running.init 0)
            (dueTogether ++ [.proceed, .returned]) =
          some
            (state,
              [.created 0 0, .created 1 0, .invoked 1 2, .invoked 0 2]) ∧
        state.position = .runTimers false ∧
        timerMachine.step state .proceed = some (next, []) ∧
        2 ≤ next.self.uvLoop.time ∧ next.self.created < 2 ^ 32 :=
  ⟨_, _, rfl, rfl, rfl, by decide, by decide⟩

theorem linked_none_due_behind_pass_dueTogether :
    ∃ state next outputs,
      timerMachine.run (Running.init 0)
            (dueTogether ++ [.proceed, .returned]) =
          some (state, outputs) ∧
        timerMachine.step state .proceed = some (next, []) ∧
        (invocations 0 outputs).length = 1 := by
  obtain ⟨state, next, ran, isHere, stepped, reached, few⟩ :=
    dueTogether_run_passed
  refine ⟨state, next, _, ran, stepped, ?_⟩
  have isDue :
      DueAt (dueTogether ++ [.proceed, .returned])
        [.created 0 0, .created 1 0, .invoked 1 2, .invoked 0 2] 0 2 :=
    ⟨UvEventLoop.timeoutOptions 2 true, 0, rfl, rfl, by simp, by decide⟩
  obtain ⟨linked, carried, called, -⟩ :=
    linked_none_due_behind_pass (fun _ => {}) ran isHere stepped (by decide)
      few
  exact called 0 2 isDue (by decide) (by rw [carried.time]; exact reached)

/-- Between two readings of the clock no timer is called twice, and none that
is not due or new.  So there are at most as many calls as there are due timers
and new ones. -/
theorem linked_once_between_clocks
    (nodes : Nat → HeapNode Nat)
    (ran :
      timerMachine.run (Running.init hrtime) events =
        some (state, outputs))
    (continued : timerMachine.run state later = some (final, emitted))
    (fewEvents : events.length + later.length < 2 ^ 64)
    (fewTimers : final.self.created < 2 ^ 32)
    (unread : ∀ hrtime, .clock hrtime ∉ later)
    (unfailed : Unfailed (outputs ++ emitted)) :
    ∃ linked after,
      LinkedRun nodes hrtime events state outputs linked ∧
        LinkedRun nodes hrtime (events ++ later) final (outputs ++ emitted)
          after ∧
        (called emitted).Nodup ∧
        (∀ timer ∈ called emitted,
          timer < state.self.created →
            (linked.handles timer).active = true ∧
              (linked.handles timer).timeout ≤ linked.time) ∧
        (called emitted).length ≤
          state.dueTimers.length +
            (final.self.created - state.self.created) := by
  obtain ⟨⟨linked, carried⟩, after, carriedOn⟩ :=
    exists_linkedRun_append nodes ran continued fewEvents fewTimers
  obtain ⟨once, justified, atMost⟩ :=
    once_between_clocks ran continued unread unfailed
  refine ⟨linked, after, carried, carriedOn, once, ?_, atMost⟩
  rw [carried.handles, carried.time]
  exact justified

/-- A timer that repeats is due, and its callback creates another one that is
due at once. -/
def dueAndCreated : List TimerEvent :=
  [.create (UvEventLoop.intervalOptions 1 true), .run, .proceed,
    .clock 1000000]

private theorem dueAndCreated_run :
    ∃ state final,
      timerMachine.run (Running.init 0) dueAndCreated =
          some (state, [.created 0 0]) ∧
        state.self.created = 1 ∧ final.self.created = 2 ∧
        state.dueTimers.length = 1 ∧
        timerMachine.run state
            [.proceed, .create (UvEventLoop.timeoutOptions 0 true),
              .returned, .proceed, .returned, .proceed] =
          some (final, [.invoked 0 1, .created 1 1, .invoked 1 1]) :=
  ⟨_, _, rfl, rfl, rfl, rfl, rfl⟩

theorem linked_once_between_clocks_dueAndCreated :
    ∃ state final emitted,
      timerMachine.run state
            [.proceed, .create (UvEventLoop.timeoutOptions 0 true),
              .returned, .proceed, .returned, .proceed] =
          some (final, emitted) ∧
        (called emitted).Nodup ∧ (called emitted).length ≤ 1 + (2 - 1) := by
  obtain ⟨state, final, ran, created, grown, due, continued⟩ :=
    dueAndCreated_run
  obtain ⟨-, -, -, -, once, -, atMost⟩ :=
    linked_once_between_clocks (fun _ => {}) ran continued (by decide)
      (by rw [grown]; decide) (by simp) (by simp [Unfailed])
  rw [created, grown, due] at atMost
  exact ⟨state, final, _, continued, once, atMost⟩

/-- The time that libuv waits for events.  It never waits forever, and never
longer than until the first timer is due; it does not wait at all when no timer
is active or a handle waits to be closed; and otherwise it waits until the
first timer is due, unless that takes longer than `INT_MAX` milliseconds. -/
theorem linked_poll_until_first_due
    (nodes : Nat → HeapNode Nat)
    (ran :
      timerMachine.run (Running.init hrtime) events =
        some (state, outputs))
    (fewEvents : events.length < 2 ^ 64)
    (fewTimers : state.self.created < 2 ^ 32)
    (polling : state.position = .polling) :
    ∃ linked,
      LinkedRun nodes hrtime events state outputs linked ∧
        0 ≤ linked.backendTimeout ∧
        (linked.backendTimeout = 0 ↔
          (∀ timer, (linked.handles timer).active = false) ∨
            linked.closingHandles ≠ []) ∧
        (∀ timer,
          (linked.handles timer).active = true →
            linked.time.toNat + linked.backendTimeout ≤
              (linked.handles timer).timeout.toNat) ∧
        (linked.backendTimeout ≠ 0 →
          linked.backendTimeout < 2147483647 →
            ∃ timer,
              (linked.handles timer).active = true ∧
                linked.time.toNat + linked.backendTimeout =
                  (linked.handles timer).timeout.toNat) := by
  obtain ⟨linked, carried⟩ := exists_linkedRun nodes ran fewEvents fewTimers
  refine ⟨linked, carried, ?_⟩
  rw [carried.represents.backendTimeout, carried.handles, carried.time,
    carried.closingHandles]
  exact poll_until_first_due ran polling

def early : List TimerEvent :=
  [.create (UvEventLoop.timeoutOptions 5 true), .run, .proceed,
    .clock 2000000, .proceed]

private theorem early_run :
    ∃ state,
      timerMachine.run (Running.init 0) early =
          some (state, [.created 0 0]) ∧
        state.self.created < 2 ^ 32 ∧
        state.position = .polling ∧
        (state.self.uvLoop.handles 0).active = true ∧
        state.self.uvLoop.time = 2 ∧
        (state.self.uvLoop.handles 0).timeout = 5 :=
  ⟨_, rfl, by decide, rfl, rfl, rfl, rfl⟩

theorem linked_poll_until_first_due_early :
    ∃ linked : LinkedLoop,
      0 ≤ linked.backendTimeout ∧ 2 + linked.backendTimeout ≤ 5 := by
  obtain ⟨state, ran, few, polling, active, time, timeout⟩ := early_run
  obtain ⟨linked, carried, notForever, -, notLate, -⟩ :=
    linked_poll_until_first_due (fun _ => {}) ran (by decide) few polling
  have bound := notLate 0 (by rw [carried.handles]; exact active)
  rw [carried.handles, carried.time, time, timeout] at bound
  exact ⟨linked, notForever, bound⟩

/-- When all active timers are due and none of them repeats, `Run` returns
after a bounded number of steps, unless the user creates or stops timers in
between.  Before it returns, the loop is never stuck. -/
theorem linked_run_returns
    (nodes : Nat → HeapNode Nat)
    (ran :
      timerMachine.run (Running.init hrtime) events =
        some (state, outputs))
    (running : state.position ≠ .aborted)
    (inside : state.position ≠ .outside)
    (once :
      ∀ timer,
        (state.self.uvLoop.handles timer).active = true →
          (state.self.timers timer).type = .oneTime)
    (due :
      ∀ timer,
        (state.self.uvLoop.handles timer).active = true →
          (state.self.uvLoop.handles timer).timeout ≤
            state.self.uvLoop.time)
    (isInternal : ∀ event ∈ later, event.isInternal = true)
    (continued : timerMachine.run state later = some (final, emitted))
    (notReturned : .runReturned ∉ emitted)
    (fewEvents : events.length + later.length + 1 < 2 ^ 64)
    (fewTimers : final.self.created < 2 ^ 32) :
    ∃ linked,
      LinkedRun nodes hrtime events state outputs linked ∧
        later.length ≤
          3 * linked.timerHeap.nelts.toNat + linked.closingHandles.length +
            state.position.taken.length + 11 ∧
        ∃ event further said after,
          event.isInternal = true ∧
            timerMachine.step final event = some (further, said) ∧
            LinkedRun nodes hrtime (events ++ (later ++ [event])) further
              (outputs ++ (emitted ++ said)) after := by
  obtain ⟨atMost, event, internal, goesOn⟩ :=
    run_returns ran running inside once due isInternal continued notReturned
  obtain ⟨⟨further, said⟩, stepped⟩ := Option.ne_none_iff_exists'.mp goesOn
  have wholeRan :=
    Machine.run_append_eq_some.mpr ⟨_, _, _, ran, continued, rfl⟩
  have sameTimers := (created_of_step wholeRan stepped).2 internal
  have furtherRan :=
    Machine.run_concat_eq_some.mpr ⟨_, _, _, continued, stepped, rfl⟩
  obtain ⟨⟨linked, carried⟩, after, carriedOn⟩ :=
    exists_linkedRun_append nodes ran furtherRan
      (by rw [List.length_append, List.length_singleton]; omega)
      (by rw [sameTimers]; exact fewTimers)
  refine
    ⟨linked, carried, ?_, event, further, said, after, internal, stepped,
      carriedOn⟩
  rw [carried.represents.nelts, carried.closingHandles]
  exact atMost

/-- A timer fires as soon as `Run` is called. -/
def dueAtOnce : List TimerEvent :=
  [.create (UvEventLoop.timeoutOptions 1 true), .run, .proceed,
    .clock 1000000]

private theorem dueAtOnce_run :
    ∃ state final,
      timerMachine.run (Running.init 0) dueAtOnce =
          some (state, [.created 0 0]) ∧
        state.position = .runTimers false ∧
        state.self.created = 1 ∧ final.self.created < 2 ^ 32 ∧
        (state.self.timers 0).type = .oneTime ∧
        (state.self.uvLoop.handles 0).timeout ≤ state.self.uvLoop.time ∧
        timerMachine.run state [.proceed, .returned, .proceed] =
          some (final, [.invoked 0 1]) :=
  ⟨_, _, rfl, rfl, rfl, by decide, rfl, by decide, rfl⟩

theorem linked_run_returns_dueAtOnce :
    ∃ state final,
      timerMachine.run (Running.init 0) dueAtOnce =
          some (state, [.created 0 0]) ∧
        timerMachine.run state [.proceed, .returned, .proceed] =
          some (final, [.invoked 0 1]) ∧
        ∃ event further said,
          event.isInternal = true ∧
            timerMachine.step final event = some (further, said) := by
  obtain ⟨state, final, ran, isHere, created, few, once, due, continued⟩ :=
    dueAtOnce_run
  have consistent := consistent_of_unfailed ran (by simp [Unfailed])
  have isFirst :
      ∀ timer,
        (state.self.uvLoop.handles timer).active = true → timer = 0 := by
    intro timer active
    have inRange :=
      UvEventLoop.Consistent.created_of_active consistent active
    rw [created] at inRange
    omega
  obtain ⟨-, -, -, event, further, said, -, internal, stepped, -⟩ :=
    linked_run_returns (fun _ => {}) ran (by simp [isHere])
      (by simp [isHere])
      (fun timer active => by rw [isFirst timer active]; exact once)
      (fun timer active => by rw [isFirst timer active]; exact due)
      (by decide) continued (by simp) (by decide) few
  exact ⟨state, final, ran, continued, event, further, said, internal, stepped⟩

/-! ## Liveness -/

/-- A timer that repeats is armed at every moment from its creation until it is
stopped, also inside of its own callback.  So the loop stays alive, and `Run`
does not return. -/
theorem linked_armed_until_stopped
    (nodes : Nat → HeapNode Nat)
    (ran :
      timerMachine.run (Running.init hrtime) events =
        some (state, outputs))
    (fewEvents : events.length < 2 ^ 64)
    (fewTimers : state.self.created < 2 ^ 32)
    (unfailed : Unfailed outputs) {options : TimerOptions}
    (created : (creations events)[timer]? = some options)
    (repeated : options.type = .repeated)
    (unstopped : .stop timer ∉ events) :
    ∃ linked,
      LinkedRun nodes hrtime events state outputs linked ∧
        (linked.handles timer).active = true ∧
        linked.alive = true ∧
        ∀ event next emitted,
          timerMachine.step state event = some (next, emitted) →
            .runReturned ∉ emitted := by
  obtain ⟨linked, carried⟩ := exists_linkedRun nodes ran fewEvents fewTimers
  refine ⟨linked, carried, ?_⟩
  rw [carried.handles, carried.represents.alive]
  exact armed_until_stopped ran unfailed created repeated unstopped

/-- A timer that repeats, in its own callback. -/
def inOwnCallback : List TimerEvent :=
  [.create (UvEventLoop.intervalOptions 1 true), .run, .proceed,
    .clock 1000000, .proceed]

private theorem inOwnCallback_run :
    ∃ state,
      timerMachine.run (Running.init 0) inOwnCallback =
          some (state, [.created 0 0, .invoked 0 1]) ∧
        state.self.created < 2 ^ 32 :=
  ⟨_, rfl, by decide⟩

theorem linked_armed_until_stopped_inOwnCallback :
    ∃ linked : LinkedLoop,
      (linked.handles 0).active = true ∧ linked.alive = true := by
  obtain ⟨state, ran, few⟩ := inOwnCallback_run
  have created :
      (creations inOwnCallback)[0]? =
        some (UvEventLoop.intervalOptions 1 true) :=
    rfl
  obtain ⟨linked, -, active, alive, -⟩ :=
    linked_armed_until_stopped (fun _ => {}) ran (by decide) few
      (by simp [Unfailed]) created rfl (by decide)
  exact ⟨linked, active, alive⟩

/-- An event loop can be destroyed exactly if all of its timers are closed.
While control is outside of its callbacks and of `uv_run`, this means that the
loop is not alive. -/
theorem linked_destroy_succeeds_iff
    (nodes : Nat → HeapNode Nat)
    (ran :
      timerMachine.run (Running.init hrtime) events =
        some (state, outputs))
    (fewEvents : events.length < 2 ^ 64)
    (fewTimers : state.self.created < 2 ^ 32)
    (unfailed : Unfailed outputs) :
    ∃ linked,
      LinkedRun nodes hrtime events state outputs linked ∧
        ((UvEventLoop.destroy state.self).1 = .ok ⟨⟩ ↔
          ∀ timer < state.self.created,
            (state.self.timers timer).closed = true) ∧
        ((UvEventLoop.destroy state.self).1 = .ok ⟨⟩ ∨
          (UvEventLoop.destroy state.self).1 =
            .error (.loopCloseFailed UV_EBUSY)) ∧
        (state.position = .outside ∨ state.position = .whileAlive →
          ((UvEventLoop.destroy state.self).1 = .ok ⟨⟩ ↔
            linked.alive = false)) := by
  obtain ⟨linked, carried⟩ := exists_linkedRun nodes ran fewEvents fewTimers
  obtain ⟨succeeds, outcomes, atRest⟩ := destroy_succeeds_iff ran unfailed
  refine ⟨linked, carried, succeeds, outcomes, ?_⟩
  intro outside
  rw [carried.represents.alive, succeeds]
  exact (atRest outside).symm

private theorem neverRun_run :
    ∃ state,
      timerMachine.run (Running.init 0)
            [.create (UvEventLoop.timeoutOptions 1 true)] =
          some (state, [.created 0 0]) ∧
        state.self.created = 1 ∧ (state.self.timers 0).closed = false :=
  ⟨_, rfl, rfl, rfl⟩

theorem linked_destroy_succeeds_iff_neverRun :
    ∃ state,
      timerMachine.run (Running.init 0)
            [.create (UvEventLoop.timeoutOptions 1 true)] =
          some (state, [.created 0 0]) ∧
        (UvEventLoop.destroy state.self).1 =
          .error (.loopCloseFailed UV_EBUSY) := by
  obtain ⟨state, ran, created, notClosed⟩ := neverRun_run
  refine ⟨state, ran, ?_⟩
  obtain ⟨-, -, succeeds, outcomes, -⟩ :=
    linked_destroy_succeeds_iff (fun _ => {}) ran (by decide)
      (by rw [created]; decide) (by simp [Unfailed])
  apply outcomes.resolve_left
  intro destroyed
  have closed := succeeds.mp destroyed 0 (by rw [created]; decide)
  rw [notClosed] at closed
  cases closed

end Running

end DkPull.Event
