import DkPull.Event.TimerOrdering
import DkPull.Libuv.PollTimeout

/-!
# Between two passes over the timers

When libuv is done with a pass over the timers, none that is due is left.  It
then waits for events until the first timer is due, and not at all while a
handle waits to be closed.
-/

namespace DkPull.Event

open DkPull.Libuv
open DkPull.Reactive

namespace Running

variable {state next : Running} {event : TimerEvent}
  {events : List TimerEvent} {outputs emitted : List TimerOutput}

/-- At the end of a pass, every timer that fires once and is due has been
called exactly once unless it has been stopped, and no active timer is due. -/
theorem none_due_behind_pass
    {hrtime : UInt64}
    (ran :
      timerMachine.run (Running.init hrtime) events =
        some (state, outputs))
    (few : events.length < 2 ^ 64) {last : Bool}
    (isHere : state.position = .runTimers last)
    (stepped : timerMachine.step state .proceed = some (next, [])) :
    (∀ timer due,
      DueAt events outputs timer due →
      .stop timer ∉ events →
      due ≤ state.self.uvLoop.time →
        (invocations timer outputs).length = 1) ∧
      ∀ timer,
        (next.self.uvLoop.handles timer).active = true →
          next.self.uvLoop.time <
            (next.self.uvLoop.handles timer).timeout := by
  have unfailed := unfailed_of_step ran stepped
  have consistent := consistent_of_unfailed ran unfailed
  have recorded := recorded_of_unfailed ran unfailed
  have scheduled := scheduled_of_unfailed ran unfailed few
  rcases consistent.moves stepped with ⟨moves, agrees⟩ | ⟨refused, -⟩
  · cases moves with
    | passed _ _ noneDue =>
        rw [Loop.nextTimer_eq_none_iff] at noneDue
        constructor
        · intro timer due isDue unstopped reached
          rcases called_or_waiting ran unfailed isDue unstopped with
            called | waiting
          · exact called
          · have early := noneDue timer waiting
            rw [(scheduled.timeout_of_dueAt recorded isDue).2.2] at early
            exact absurd reached (UInt64.not_le.mpr early)
        · intro timer active
          exact
            noneDue timer
              ((consistent.wellFormed.tracked timer).active.mpr active)
    | alive elsewhere =>
        rw [isHere] at elsewhere
        cases elsewhere
    | finished _ _ elsewhere =>
        rw [isHere] at elsewhere
        cases elsewhere
    | closedAll elsewhere =>
        rw [isHere] at elsewhere
        cases elsewhere
  · obtain ⟨failure, impossible⟩ := refused.fails
    cases impossible

theorem nextTimer_of_polling
    {hrtime : UInt64}
    (ran :
      timerMachine.run (Running.init hrtime) events =
        some (state, outputs))
    (unfailed : Unfailed outputs) (polling : state.position = .polling) :
    state.self.uvLoop.nextTimer = none := by
  refine
    history_of_moves
      (fun _ _ state =>
        state.position = .polling → state.self.uvLoop.nextTimer = none)
      ?_ ?_ ran unfailed polling
  · intro impossible
    cases impossible
  · intro history outputs state event next emitted _ _ moves isPolling
    cases moves with
    | created _ userRuns =>
        change state.position = .polling at isPolling
        simp [Running.userRuns, isPolling] at userRuns
    | stopped _ userRuns =>
        change state.position = .polling at isPolling
        simp [Running.userRuns, isPolling] at userRuns
    | passed _ _ noneDue => exact noneDue
    | _ => cases isPolling

/-- The time that libuv waits for events.  It never waits forever, and never
longer than until the first timer is due; it does not wait at all when no timer
is active or a handle waits to be closed; and otherwise it waits until the
first timer is due, unless that takes longer than `INT_MAX` milliseconds. -/
theorem poll_until_first_due
    {hrtime : UInt64}
    (ran :
      timerMachine.run (Running.init hrtime) events =
        some (state, outputs))
    (polling : state.position = .polling) :
    0 ≤ state.self.uvLoop.backendTimeout ∧
      (state.self.uvLoop.backendTimeout = 0 ↔
        (∀ timer, (state.self.uvLoop.handles timer).active = false) ∨
          state.self.uvLoop.closingHandles ≠ []) ∧
      (∀ timer,
        (state.self.uvLoop.handles timer).active = true →
          state.self.uvLoop.time.toNat +
              state.self.uvLoop.backendTimeout ≤
            (state.self.uvLoop.handles timer).timeout.toNat) ∧
      (state.self.uvLoop.backendTimeout ≠ 0 →
        state.self.uvLoop.backendTimeout < 2147483647 →
          ∃ timer,
            (state.self.uvLoop.handles timer).active = true ∧
              state.self.uvLoop.time.toNat +
                  state.self.uvLoop.backendTimeout =
                (state.self.uvLoop.handles timer).timeout.toNat) := by
  have unfailed : Unfailed outputs := by
    rcases unfailed_or_refused ran with ⟨-, unfailed⟩ | ⟨aborted, -⟩
    · exact unfailed
    · rw [polling] at aborted
      cases aborted
  have consistent := consistent_of_unfailed ran unfailed
  have noneDue :=
    Loop.nextTimer_eq_none_iff.mp
      (nextTimer_of_polling ran unfailed polling)
  have isActive :
      ∀ timer,
        (state.self.uvLoop.handles timer).active = true ↔
          timer ∈ state.self.uvLoop.timerHeap :=
    fun timer => (consistent.wellFormed.tracked timer).active.symm
  have counted := consistent.wellFormed.counted
  by_cases waiting : state.self.uvLoop.closingHandles = []
  · cases found :
        Loop.heapMin state.self.uvLoop.handles
          state.self.uvLoop.timerHeap with
    | none =>
        rw [Loop.heapMin_eq_none_iff] at found
        have allInactive :
            ∀ timer, (state.self.uvLoop.handles timer).active = false := by
          intro timer
          rw [← Bool.not_eq_true, isActive, found]
          exact List.not_mem_nil
        rw [found] at counted
        have value := Loop.backendTimeout_of_idle counted
        simp [value, allInactive]
    | some least =>
        have member := Loop.mem_of_heapMin found
        have active := (isActive least).mpr member
        have busy : state.self.uvLoop.activeHandles ≠ 0 := by
          rw [counted]
          exact Nat.ne_of_gt (List.length_pos_of_mem member)
        have early := noneDue least member
        rw [Loop.backendTimeout_of_heapMin found early busy waiting]
        rw [UInt64.lt_iff_toNat_lt] at early
        refine ⟨by omega, ?_, ?_, ?_⟩
        · refine iff_of_false (by omega) ?_
          rintro (allInactive | isWaiting)
          · rw [allInactive least] at active
            cases active
          · exact isWaiting waiting
        · intro timer isActiveToo
          have first :=
            Loop.timeout_le_of_heapMin found
              ((isActive timer).mp isActiveToo)
          omega
        · intro _ short
          exact ⟨least, active, by omega⟩
  · rw [Loop.backendTimeout_of_waiting waiting]
    refine ⟨le_refl _, iff_of_true rfl (.inr waiting), ?_, ?_⟩
    · intro timer active
      have early := noneDue timer ((isActive timer).mp active)
      rw [UInt64.lt_iff_toNat_lt] at early
      omega
    · intro notZero
      exact absurd rfl notZero

end Running

end DkPull.Event
