import DkPull.Event.TimerLifecycle
import DkPull.Libuv.TimerOrder

/-!
# The steps of an event loop in full

What a step does to the loop of libuv, with the position at which it is taken.
Timers are started with increasing numbers, which are their creation order as
long as they do not repeat.
-/

namespace DkPull.Event

open DkPull.Libuv
open DkPull.Reactive

namespace Running

/-- Every step of a program, apart from the calls that end it. -/
inductive Moves (state : Running) :
    TimerEvent → Running → List TimerOutput → Prop
  | created (options : TimerOptions)
      (userRuns : state.userRuns = true)
      (hasCallback : options.callback = true) :
      Moves state (.create options)
        ⟨state.self.withTimer options, state.position⟩
        [.created state.self.created state.self.uvLoop.time]
  | stopped (timer : Nat) (userRuns : state.userRuns = true)
      (inRange : timer < state.self.created)
      (unstopped : (state.self.timers timer).stopped = false) :
      Moves state (.stop timer)
        ⟨state.self.stopping timer, state.position⟩ [.stopped true]
  | run (outside : state.position = .outside) :
      Moves state .run ⟨state.self, .whileAlive⟩ []
  | alive (isHere : state.position = .whileAlive)
      (isAlive : state.self.uvLoop.alive = true) :
      Moves state .proceed ⟨state.self, .updateTime⟩ []
  | runReturned (isHere : state.position = .whileAlive)
      (rests : state.self.uvLoop.alive = false) :
      Moves state .proceed ⟨state.self, .outside⟩ [.runReturned]
  | updated (hrtime : UInt64) (last : Bool)
      (isHere :
        state.position = if last then .updateTimeAgain else .updateTime)
      (forward : state.self.uvLoop.time ≤ milliseconds hrtime) :
      Moves state (.clock hrtime)
        ⟨{ state.self with
            uvLoop := state.self.uvLoop.updateTime hrtime },
          .runTimers last⟩
        []
  | invoked (timer : Nat) (last : Bool)
      (isHere : state.position = .runTimers last)
      (least :
        Loop.heapMin state.self.uvLoop.handles
          state.self.uvLoop.timerHeap = some timer)
      (due :
        (state.self.uvLoop.handles timer).timeout ≤
          state.self.uvLoop.time) :
      Moves state .proceed
        ⟨{ state.self with uvLoop := state.self.uvLoop.fire timer },
          .inCallback timer last⟩
        [.invoked timer state.self.uvLoop.time]
  | passed (last : Bool) (isHere : state.position = .runTimers last)
      (noneDue : state.self.uvLoop.nextTimer = none) :
      Moves state .proceed
        ⟨state.self, if last then .whileAlive else .polling⟩ []
  | rearmed (timer : Nat) (last : Bool)
      (isHere : state.position = .inCallback timer last)
      (repeated : (state.self.timers timer).type = .repeated) :
      Moves state .returned ⟨state.self, .runTimers last⟩ []
  | expired (timer : Nat) (last : Bool)
      (isHere : state.position = .inCallback timer last)
      (once : (state.self.timers timer).type = .oneTime) :
      Moves state .returned
        ⟨state.self.closing timer, .runTimers last⟩ []
  | polled (hrtime : UInt64) (isHere : state.position = .polling)
      (forward : state.self.uvLoop.time ≤ milliseconds hrtime) :
      Moves state (.clock hrtime)
        ⟨{ state.self with
            uvLoop :=
              { state.self.uvLoop.updateTime hrtime with
                closingHandles := [] } },
          .closingHandles state.self.uvLoop.closingHandles⟩
        []
  | finished (timer : Nat) (rest : List Nat)
      (isHere : state.position = .closingHandles (timer :: rest)) :
      Moves state .proceed
        ⟨state.self.closedTimer timer, .closingHandles rest⟩ []
  | closedAll (isHere : state.position = .closingHandles []) :
      Moves state .proceed ⟨state.self, .updateTimeAgain⟩ []

variable {state next : Running} {event : TimerEvent}
  {emitted : List TimerOutput}

theorem Consistent.nextTimer_least
    (consistent : state.Consistent) {timer : Nat} {uvLoop : Loop}
    (found : state.self.uvLoop.nextTimer = some (timer, uvLoop)) :
    Loop.heapMin state.self.uvLoop.handles state.self.uvLoop.timerHeap =
        some timer ∧
      (state.self.uvLoop.handles timer).timeout ≤ state.self.uvLoop.time ∧
      uvLoop = state.self.uvLoop.fire timer := by
  obtain ⟨-, due, fired⟩ :=
    consistent.wellFormed.nextTimer_eq_some found
  refine ⟨?_, due, fired⟩
  unfold Loop.nextTimer at found
  split at found
  · cases found
  · rename_i least isLeast
    split at found
    · cases found
    · cases found
      exact isLeast

/-- Every step is one of those above, or the last one. -/
theorem Consistent.moves
    (consistent : state.Consistent)
    (stepped : timerMachine.step state event = some (next, emitted)) :
    (state.Moves event next emitted ∧ next.Consistent) ∨
      (state.Refused event emitted ∧ next.position = .aborted) := by
  rcases consistent.advances stepped with
    ⟨advances, agrees⟩ | refused
  · refine .inl ⟨?_, agrees⟩
    obtain ⟨eventLoop, position⟩ := state
    cases event with
    | create options =>
        simp only [timerMachine] at stepped
        split at stepped
        · rename_i userRuns
          cases advances with
          | created _ hasCallback =>
              exact .created options userRuns hasCallback
          | quiet _ _ isInternal => cases isInternal
        · cases stepped
    | stop timer =>
        simp only [timerMachine] at stepped
        split at stepped
        · rename_i may
          rw [Bool.and_eq_true] at may
          cases advances with
          | stopped _ inRange unstopped =>
              exact .stopped timer may.1 inRange unstopped
          | quiet _ _ isInternal => cases isInternal
        · cases stepped
    | run =>
        simp only [timerMachine] at stepped
        split at stepped
        · rename_i outside
          cases stepped
          exact .run outside
        · cases stepped
    | clock hrtime =>
        simp only [timerMachine] at stepped
        split at stepped
        · rename_i forward
          cases position with
          | updateTime =>
              cases stepped
              exact .updated hrtime false rfl forward
          | polling =>
              cases stepped
              exact .polled hrtime rfl forward
          | updateTimeAgain =>
              cases stepped
              exact .updated hrtime true rfl forward
          | _ => cases stepped
        · cases stepped
    | returned =>
        cases position with
        | inCallback timer last =>
            have inRange := consistent.running timer rfl
            obtain ⟨after, succeeded, -, cases⟩ :=
              UvEventLoop.Consistent.afterCallback_run consistent inRange
            simp only [timerMachine] at stepped
            rw [perform_of_ok succeeded] at stepped
            cases stepped
            rcases cases with ⟨rfl, repeated⟩ | ⟨rfl, once⟩
            · exact .rearmed timer last rfl repeated
            · exact .expired timer last rfl once
        | _ => cases stepped
    | proceed =>
        simp only [timerMachine, proceed] at stepped
        cases position with
        | whileAlive =>
            simp only at stepped
            split at stepped
            · rename_i isAlive
              cases stepped
              exact .alive rfl isAlive
            · rename_i rests
              cases stepped
              rw [Bool.not_eq_true] at rests
              exact .runReturned rfl rests
        | runTimers last =>
            simp only at stepped
            split at stepped
            · rename_i timer uvLoop found
              cases stepped
              obtain ⟨least, due, rfl⟩ := consistent.nextTimer_least found
              rw [Loop.fire_time]
              exact .invoked timer last rfl least due
            · rename_i noneDue
              cases stepped
              exact .passed last rfl noneDue
        | closingHandles handles =>
            cases handles with
            | nil =>
                cases stepped
                exact .closedAll rfl
            | cons timer rest =>
                obtain ⟨succeeded, -⟩ :=
                  UvEventLoop.Consistent.finishClose_run consistent
                simp only at stepped
                rw [perform_of_ok succeeded] at stepped
                cases stepped
                exact .finished timer rest rfl
        | _ => cases stepped
  · exact .inr refused

/-- A relation between the past and the state holds while no check fails when
it holds at the start and is kept by every step. -/
theorem history_of_moves
    (holds : List TimerEvent → List TimerOutput → Running → Prop)
    {hrtime : UInt64} (start : holds [] [] (Running.init hrtime))
    (preserved :
      ∀ history outputs state event next emitted,
        state.Consistent → holds history outputs state →
        state.Moves event next emitted →
          holds (history ++ [event]) (outputs ++ emitted) next)
    {events : List TimerEvent} {outputs : List TimerOutput}
    (ran :
      timerMachine.run (Running.init hrtime) events =
        some (state, outputs))
    (unfailed : Unfailed outputs) :
    holds events outputs state := by
  refine
    Machine.history_invariant
      (fun history outputs state =>
        Unfailed outputs → holds history outputs state)
      (fun _ => start) ?_ ran unfailed
  intro history outputs state event next emitted front earlier stepped
    unfailed
  obtain ⟨before, now⟩ := (unfailed_append_iff _ _).mp unfailed
  have consistent := consistent_of_unfailed front before
  rcases consistent.moves stepped with ⟨moves, -⟩ | ⟨refused, -⟩
  · exact
      preserved history outputs state event next emitted consistent
        (earlier before) moves
  · obtain ⟨failure, rfl⟩ := refused.fails
    exact absurd (by simp) (now failure)

theorem unfailed_of_step
    {hrtime : UInt64} {events : List TimerEvent}
    {outputs : List TimerOutput}
    (ran :
      timerMachine.run (Running.init hrtime) events =
        some (state, outputs))
    (stepped : timerMachine.step state event = some (next, emitted)) :
    Unfailed outputs := by
  rcases unfailed_or_refused ran with ⟨-, unfailed⟩ | ⟨aborted, -⟩
  · exact unfailed
  · rw [step_of_aborted aborted] at stepped
    cases stepped

structure SameSchedule (state next : Running) : Prop where
  created : next.self.created = state.self.created
  counter :
    next.self.uvLoop.timerCounter = state.self.uvLoop.timerCounter
  options :
    ∀ timer,
      (next.self.timers timer).options = (state.self.timers timer).options
  timeout :
    ∀ timer,
      (next.self.uvLoop.handles timer).timeout =
        (state.self.uvLoop.handles timer).timeout
  startId :
    ∀ timer,
      (next.self.uvLoop.handles timer).startId =
        (state.self.uvLoop.handles timer).startId

private theorem SameSchedule.of_same
    (created : next.self.created = state.self.created)
    (counter :
      next.self.uvLoop.timerCounter = state.self.uvLoop.timerCounter)
    (timers : next.self.timers = state.self.timers)
    (handles : next.self.uvLoop.handles = state.self.uvLoop.handles) :
    SameSchedule state next := by
  constructor
  · exact created
  · exact counter
  · intro timer
    rw [timers]
  · intro timer
    rw [handles]
  · intro timer
    rw [handles]

private theorem SameSchedule.of_closing
    (timer : Nat)
    (uvLoop : next.self.uvLoop = (state.self.closing timer).uvLoop)
    (created : next.self.created = state.self.created)
    (options :
      ∀ other,
        (next.self.timers other).options =
          (state.self.timers other).options) :
    SameSchedule state next := by
  have handles :
      ∀ other,
        ((state.self.closing timer).uvLoop.handles other).timeout =
            (state.self.uvLoop.handles other).timeout ∧
          ((state.self.closing timer).uvLoop.handles other).startId =
            (state.self.uvLoop.handles other).startId := by
    intro other
    by_cases same : other = timer
    · rw [same, UvEventLoop.closing_handles_self]
      split_ifs <;> exact ⟨rfl, rfl⟩
    · rw [UvEventLoop.closing_handles_of_ne same]
      exact ⟨rfl, rfl⟩
  constructor
  · exact created
  · rw [uvLoop, UvEventLoop.closing]
    split_ifs
    · rfl
    · exact Loop.timerStop_timerCounter _ _
  · exact options
  · intro other
    rw [uvLoop]
    exact (handles other).1
  · intro other
    rw [uvLoop]
    exact (handles other).2

/-- Timers are started when they are created, and again when they fire if they
repeat. -/
theorem Moves.schedule
    (moves : state.Moves event next emitted) (consistent : state.Consistent) :
    (SameSchedule state next ∧
        ∀ timer time, .created timer time ∉ emitted) ∨
      (∃ options,
        emitted = [.created state.self.created state.self.uvLoop.time] ∧
          next.self = state.self.withTimer options) ∨
      ∃ timer,
        emitted = [.invoked timer state.self.uvLoop.time] ∧
          timer < state.self.created ∧
          (state.self.timers timer).type = .repeated ∧
          next.self =
            { state.self with
              uvLoop :=
                (state.self.uvLoop.timerStop timer).activate timer 1 1 } := by
  cases moves with
  | created options => exact .inr (.inl ⟨options, rfl, rfl⟩)
  | stopped timer =>
      refine .inl ⟨SameSchedule.of_closing timer rfl ?_ ?_, ?_⟩
      · exact UvEventLoop.stopping_created _ _
      · intro other
        rw [UvEventLoop.stopping_timers]
        by_cases same : other = timer
        · rw [same, Function.update_self]
          rfl
        · rw [Function.update_of_ne same]
      · simp
  | invoked timer last _ least =>
      have active :=
        (consistent.wellFormed.tracked timer).active.mp
          (Loop.mem_of_heapMin least)
      have inRange := consistent.created_of_active active
      have coherent := consistent.coherent timer inRange
      cases type : (state.self.timers timer).type with
      | oneTime =>
          have once := coherent.fires_once type
          refine .inl ⟨?_, by simp⟩
          constructor
          · rfl
          · change (state.self.uvLoop.fire timer).timerCounter = _
            rw [Loop.fire, if_pos once, Loop.timerStop_timerCounter]
          · exact fun _ => rfl
          · intro other
            change ((state.self.uvLoop.fire timer).handles other).timeout = _
            by_cases same : other = timer
            · rw [same, Loop.fire_handles_of_once once]
            · rw [Loop.fire_handles_of_ne same]
          · intro other
            change ((state.self.uvLoop.fire timer).handles other).startId = _
            by_cases same : other = timer
            · rw [same, Loop.fire_handles_of_once once]
            · rw [Loop.fire_handles_of_ne same]
      | repeated =>
          have repeats := coherent.repeats type
          have notZero : (state.self.uvLoop.handles timer).repeatTime ≠ 0 := by
            rw [repeats]
            decide
          refine .inr (.inr ⟨timer, rfl, inRange, type, ?_⟩)
          rw [Loop.fire, if_neg notZero, repeats]
  | expired timer =>
      refine .inl ⟨SameSchedule.of_closing timer rfl ?_ ?_, ?_⟩
      · exact UvEventLoop.closing_created _ _
      · intro other
        rw [UvEventLoop.closing_timers]
      · simp
  | finished timer =>
      refine .inl ⟨?_, by simp⟩
      constructor
      · rfl
      · rfl
      · intro other
        rw [UvEventLoop.closedTimer_timers]
        by_cases same : other = timer
        · rw [same, Function.update_self]
          rfl
        · rw [Function.update_of_ne same]
      · intro other
        rw [UvEventLoop.closedTimer_handles]
        by_cases same : other = timer
        · rw [same, Function.update_self]
        · rw [Function.update_of_ne same]
      · intro other
        rw [UvEventLoop.closedTimer_handles]
        by_cases same : other = timer
        · rw [same, Function.update_self]
        · rw [Function.update_of_ne same]
  | _ => exact .inl ⟨SameSchedule.of_same rfl rfl rfl rfl, by simp⟩

end Running

end DkPull.Event
