import DkPull.Event.TimerConsistency

/-!
# The life of a timer

Whatever a program with an event loop does, its timers agree with their
handles until a check fails.  No check fails as long as every timer has a
callback and is stopped at most once, and all timers are closed when `Run`
returns.
-/

namespace DkPull.Event

open DkPull.Libuv
open DkPull.Reactive

def Position.current : Position → Option Nat
  | .inCallback timer _ => some timer
  | _ => none

/-- The handles that libuv has taken from the list of closing handles. -/
def Position.taken : Position → List Nat
  | .closingHandles handles => handles
  | _ => []

def creations (events : List TimerEvent) : List TimerOptions :=
  events.filterMap fun
    | .create options => some options
    | _ => none

def UvTimer.options (timer : UvTimer) : TimerOptions where
  callback := timer.callback
  delay := timer.delay
  type := timer.type

/-- The event is neither a call of `CreateTimer` nor one of `Stop`. -/
def TimerEvent.isInternal : TimerEvent → Bool
  | .create _ => false
  | .stop _ => false
  | _ => true

namespace Running

def Consistent (state : Running) : Prop :=
  state.self.Consistent state.position.current state.position.taken

/-- All that a step can do when no check fails. -/
inductive Advances (state : Running) :
    TimerEvent → Running → List TimerOutput → Prop
  | created (options : TimerOptions)
      (hasCallback : options.callback = true) :
      Advances state (.create options)
        ⟨state.self.withTimer options, state.position⟩
        [.created state.self.created state.self.uvLoop.time]
  | stopped (timer : Nat) (inRange : timer < state.self.created)
      (unstopped : (state.self.timers timer).stopped = false) :
      Advances state (.stop timer)
        ⟨state.self.stopping timer, state.position⟩ [.stopped true]
  | quiet (event : TimerEvent) (next : Running)
      (isInternal : event.isInternal = true)
      (timers : next.self.timers = state.self.timers)
      (created : next.self.created = state.self.created)
      (handles : next.self.uvLoop.handles = state.self.uvLoop.handles)
      (time :
        next.self.uvLoop.time = state.self.uvLoop.time ∨
          ∃ hrtime, next.self.uvLoop.time = milliseconds hrtime) :
      Advances state event next []
  | invoked (timer : Nat) (last : Bool)
      (active : (state.self.uvLoop.handles timer).active = true)
      (due :
        (state.self.uvLoop.handles timer).timeout ≤
          state.self.uvLoop.time) :
      Advances state .proceed
        ⟨{ state.self with uvLoop := state.self.uvLoop.fire timer },
          .inCallback timer last⟩
        [.invoked timer state.self.uvLoop.time]
  | expired (timer : Nat) (last : Bool)
      (running : state.position = .inCallback timer last)
      (once : (state.self.timers timer).type = .oneTime) :
      Advances state .returned
        ⟨state.self.closing timer, .runTimers last⟩ []
  | finished (timer : Nat) (rest : List Nat)
      (taken : state.position = .closingHandles (timer :: rest)) :
      Advances state .proceed
        ⟨state.self.closedTimer timer, .closingHandles rest⟩ []
  | runReturned (rests : state.self.uvLoop.alive = false) :
      Advances state .proceed ⟨state.self, .outside⟩ [.runReturned]

inductive Refused (state : Running) :
    TimerEvent → List TimerOutput → Prop
  | callbackIsNull (options : TimerOptions)
      (noCallback : options.callback = false) :
      Refused state (.create options) [.failed .callbackIsNull]
  | alreadyStopped (timer : Nat) (inRange : timer < state.self.created)
      (isStopped : (state.self.timers timer).stopped = true) :
      Refused state (.stop timer) [.failed .alreadyStopped]

variable {state next : Running} {event : TimerEvent}
  {emitted : List TimerOutput}

theorem perform_of_ok
    {Result : Type} {code : UvCode Result} {result : Result}
    {after : UvEventLoop}
    (succeeded : code state.self = (.ok result, after))
    (position : Position) (outputs : Result → List TimerOutput) :
    state.perform code position outputs =
      (⟨after, position⟩, outputs result) := by
  rw [perform, succeeded]

theorem perform_of_error
    {Result : Type} {code : UvCode Result} {failure : Failure}
    {after : UvEventLoop}
    (failed : code state.self = (.error failure, after))
    (position : Position) (outputs : Result → List TimerOutput) :
    state.perform code position outputs =
      (⟨after, .aborted⟩, [.failed failure]) := by
  rw [perform, failed]

/-- What the user does keeps the agreement or ends the program. -/
theorem Consistent.create_advances
    (consistent : state.Consistent) {options : TimerOptions}
    (stepped :
      timerMachine.step state (.create options) = some (next, emitted)) :
    (state.Advances (.create options) next emitted ∧ next.Consistent) ∨
      (state.Refused (.create options) emitted ∧ next.position = .aborted) := by
  simp only [timerMachine] at stepped
  split at stepped
  · cases hasCallback : options.callback with
    | true =>
        have succeeded :=
          UvEventLoop.createTimer_run options hasCallback state.self
        rw [perform_of_ok succeeded] at stepped
        cases stepped
        have agrees :=
          UvEventLoop.Consistent.withTimer consistent options
        exact .inl ⟨.created options hasCallback, agrees⟩
    | false =>
        have failed :
            UvEventLoop.createTimer options state.self =
              (.error .callbackIsNull, state.self) := by
          simp [UvEventLoop.createTimer, UvTimer.create, UvTimer.construct,
            check, hasCallback]
        rw [perform_of_error failed] at stepped
        cases stepped
        exact .inr ⟨.callbackIsNull options hasCallback, rfl⟩
  · cases stepped

private theorem Consistent.stop_advances
    (consistent : state.Consistent) {timer : Nat}
    (stepped :
      timerMachine.step state (.stop timer) = some (next, emitted)) :
    (state.Advances (.stop timer) next emitted ∧ next.Consistent) ∨
      (state.Refused (.stop timer) emitted ∧ next.position = .aborted) := by
  simp only [timerMachine] at stepped
  split at stepped
  · rename_i may
    rw [Bool.and_eq_true, decide_eq_true_iff] at may
    have inRange := may.2
    cases stopped : (state.self.timers timer).stopped with
    | false =>
        have succeeded :=
          UvEventLoop.Consistent.stop_run consistent inRange stopped
        rw [perform_of_ok succeeded] at stepped
        cases stepped
        have agrees :=
          UvEventLoop.Consistent.stopping consistent inRange
        exact .inl ⟨.stopped timer inRange stopped, agrees⟩
    | true =>
        have failed :=
          UvEventLoop.Consistent.stop_run_again consistent inRange stopped
        rw [perform_of_error failed] at stepped
        cases stepped
        exact .inr ⟨.alreadyStopped timer inRange stopped, rfl⟩
  · cases stepped

/-- The clock is read, and the closing handles are taken when libuv has
polled. -/
theorem Consistent.clock_advances
    (consistent : state.Consistent) {hrtime : UInt64}
    (stepped :
      timerMachine.step state (.clock hrtime) = some (next, emitted)) :
    state.Advances (.clock hrtime) next emitted ∧ next.Consistent := by
  obtain ⟨eventLoop, position⟩ := state
  simp only [timerMachine] at stepped
  split at stepped
  · cases position with
    | updateTime =>
        cases stepped
        have wellFormed := consistent.wellFormed.updateTime hrtime
        exact
          ⟨.quiet _ _ rfl rfl rfl rfl (.inr ⟨hrtime, rfl⟩),
            { consistent with wellFormed := wellFormed }⟩
    | polling =>
        cases stepped
        have wellFormed :=
          (consistent.wellFormed.updateTime hrtime).takeClosing
        exact
          ⟨.quiet _ _ rfl rfl rfl rfl (.inr ⟨hrtime, rfl⟩),
            { consistent with wellFormed := wellFormed }⟩
    | updateTimeAgain =>
        cases stepped
        have wellFormed := consistent.wellFormed.updateTime hrtime
        exact
          ⟨.quiet _ _ rfl rfl rfl rfl (.inr ⟨hrtime, rfl⟩),
            { consistent with wellFormed := wellFormed }⟩
    | _ => cases stepped
  · cases stepped

private theorem Consistent.returned_advances
    (consistent : state.Consistent)
    (stepped : timerMachine.step state .returned = some (next, emitted)) :
    state.Advances .returned next emitted ∧ next.Consistent := by
  obtain ⟨eventLoop, position⟩ := state
  cases position with
  | inCallback timer last =>
      have inRange := consistent.running timer rfl
      obtain ⟨after, succeeded, agrees, cases⟩ :=
        UvEventLoop.Consistent.afterCallback_run consistent inRange
      simp only [timerMachine] at stepped
      rw [perform_of_ok succeeded] at stepped
      cases stepped
      refine ⟨?_, agrees⟩
      rcases cases with ⟨rfl, -⟩ | ⟨rfl, once⟩
      · exact .quiet _ _ rfl rfl rfl rfl (.inl rfl)
      · exact .expired timer last rfl once
  | _ => cases stepped

private theorem Consistent.proceed_advances
    (consistent : state.Consistent)
    (stepped : timerMachine.step state .proceed = some (next, emitted)) :
    state.Advances .proceed next emitted ∧ next.Consistent := by
  obtain ⟨eventLoop, position⟩ := state
  simp only [timerMachine, proceed] at stepped
  cases position with
  | whileAlive =>
      simp only at stepped
      split at stepped
      · cases stepped
        exact
          ⟨.quiet _ _ rfl rfl rfl rfl (.inl rfl), consistent⟩
      · rename_i rests
        cases stepped
        rw [Bool.not_eq_true] at rests
        exact ⟨.runReturned rests, consistent⟩
  | runTimers last =>
      simp only at stepped
      split at stepped
      · rename_i timer uvLoop found
        cases stepped
        have agrees := UvEventLoop.Consistent.nextTimer consistent found
        obtain ⟨active, due, rfl⟩ :=
          consistent.wellFormed.nextTimer_eq_some found
        rw [Loop.fire_time]
        exact ⟨.invoked timer last active due, agrees⟩
      · cases stepped
        refine ⟨.quiet _ _ rfl rfl rfl rfl (.inl rfl), ?_⟩
        cases last with
        | false => exact consistent
        | true => exact consistent
  | closingHandles handles =>
      cases handles with
      | nil =>
          cases stepped
          exact
            ⟨.quiet _ _ rfl rfl rfl rfl (.inl rfl), consistent⟩
      | cons timer rest =>
          obtain ⟨succeeded, agrees⟩ :=
            UvEventLoop.Consistent.finishClose_run consistent
          simp only at stepped
          rw [perform_of_ok succeeded] at stepped
          cases stepped
          exact ⟨.finished timer rest rfl, agrees⟩
  | _ => cases stepped

/-- Every step keeps the agreement or is refused. -/
theorem Consistent.advances
    (consistent : state.Consistent)
    (stepped : timerMachine.step state event = some (next, emitted)) :
    (state.Advances event next emitted ∧ next.Consistent) ∨
      (state.Refused event emitted ∧ next.position = .aborted) := by
  cases event with
  | create options => exact consistent.create_advances stepped
  | stop timer => exact consistent.stop_advances stepped
  | run =>
      simp only [timerMachine] at stepped
      split at stepped
      · rename_i outside
        cases stepped
        unfold Consistent at consistent
        rw [outside] at consistent
        exact
          .inl ⟨.quiet _ _ rfl rfl rfl rfl (.inl rfl), consistent⟩
      · cases stepped
  | clock hrtime => exact .inl (consistent.clock_advances stepped)
  | returned => exact .inl (consistent.returned_advances stepped)
  | proceed => exact .inl (consistent.proceed_advances stepped)

theorem step_of_aborted
    (aborted : state.position = .aborted) (event : TimerEvent) :
    timerMachine.step state event = none := by
  cases event <;>
    simp [timerMachine, userRuns, readClock, proceed, aborted]

def Unfailed (outputs : List TimerOutput) : Prop :=
  ∀ failure, .failed failure ∉ outputs

theorem unfailed_append_iff (early late : List TimerOutput) :
    Unfailed (early ++ late) ↔ Unfailed early ∧ Unfailed late := by
  simp [Unfailed, forall_and]

private theorem Advances.unfailed
    (advances : state.Advances event next emitted) : Unfailed emitted := by
  cases advances <;> simp [Unfailed]

theorem unfailed_or_refused
    {hrtime : UInt64} {events : List TimerEvent}
    {outputs : List TimerOutput}
    (ran :
      timerMachine.run (Running.init hrtime) events =
        some (state, outputs)) :
    (state.Consistent ∧ Unfailed outputs) ∨
      (state.position = .aborted ∧
        ∃ history event middle early emitted,
          events = history ++ [event] ∧
            outputs = early ++ emitted ∧
            timerMachine.run (Running.init hrtime) history =
              some (middle, early) ∧
            middle.Consistent ∧ Unfailed early ∧
            middle.Refused event emitted) := by
  induction events using List.reverseRecOn generalizing state outputs with
  | nil =>
      cases ran
      exact
        .inl ⟨UvEventLoop.Consistent.init hrtime, by simp [Unfailed]⟩
  | append_singleton history event inductionHypothesis =>
      obtain ⟨middle, early, emitted, front, stepped, rfl⟩ :=
        Machine.run_concat_eq_some.mp ran
      rcases inductionHypothesis front with
        ⟨consistent, unfailed⟩ | ⟨aborted, -⟩
      · rcases consistent.advances stepped with
          ⟨advances, agrees⟩ | ⟨refused, aborted⟩
        · have now := advances.unfailed
          exact .inl ⟨agrees, (unfailed_append_iff _ _).mpr ⟨unfailed, now⟩⟩
        · exact
            .inr
              ⟨aborted, history, event, middle, early, emitted, rfl, rfl,
                front, consistent, unfailed, refused⟩
      · rw [step_of_aborted aborted] at stepped
        cases stepped

theorem Refused.fails
    (refused : state.Refused event emitted) :
    ∃ failure, emitted = [.failed failure] := by
  cases refused <;> exact ⟨_, rfl⟩

theorem consistent_of_unfailed
    {hrtime : UInt64} {events : List TimerEvent}
    {outputs : List TimerOutput}
    (ran :
      timerMachine.run (Running.init hrtime) events =
        some (state, outputs))
    (unfailed : Unfailed outputs) : state.Consistent := by
  rcases unfailed_or_refused ran with
    ⟨consistent, -⟩ | ⟨-, _, _, _, _, _, -, rfl, -, -, -, refused⟩
  · exact consistent
  · obtain ⟨failure, rfl⟩ := refused.fails
    exact absurd (by simp) (unfailed failure)

/-- A relation between the past and the state holds while no check fails when
it holds at the start and is kept by every step. -/
theorem history_of_advances
    (holds : List TimerEvent → List TimerOutput → Running → Prop)
    {hrtime : UInt64} (start : holds [] [] (Running.init hrtime))
    (preserved :
      ∀ history outputs state event next emitted,
        state.Consistent → holds history outputs state →
        state.Advances event next emitted →
          holds (history ++ [event]) (outputs ++ emitted) next)
    {events : List TimerEvent} {outputs : List TimerOutput}
    (ran :
      timerMachine.run (Running.init hrtime) events =
        some (state, outputs))
    (unfailed : Unfailed outputs) :
    holds events outputs state := by
  refine
    Machine.history_invariant
      (fun history outputs state =>
        Unfailed outputs → holds history outputs state)
      (fun _ => start) ?_ ran unfailed
  intro history outputs state event next emitted front earlier stepped
    unfailed
  obtain ⟨before, now⟩ := (unfailed_append_iff _ _).mp unfailed
  have consistent := consistent_of_unfailed front before
  rcases consistent.advances stepped with ⟨advances, -⟩ | ⟨refused, -⟩
  · exact
      preserved history outputs state event next emitted consistent
        (earlier before) advances
  · obtain ⟨failure, rfl⟩ := refused.fails
    exact absurd (by simp) (now failure)

/-- What the state knows of the past. -/
structure Recorded
    (events : List TimerEvent) (outputs : List TimerOutput)
    (state : Running) : Prop where
  created : (creations events).length = state.self.created
  options :
    ∀ timer < state.self.created,
      (creations events)[timer]? =
        some (state.self.timers timer).options
  stopped :
    ∀ timer,
      .stop timer ∈ events ↔
        timer < state.self.created ∧
          (state.self.timers timer).stopped = true
  named :
    ∀ timer time,
      .created timer time ∈ outputs → timer < state.self.created

private theorem creations_concat_create
    (events : List TimerEvent) (options : TimerOptions) :
    creations (events ++ [.create options]) =
      creations events ++ [options] := by
  simp [creations]

private theorem creations_concat_of_other
    (events : List TimerEvent)
    (notCreate : ∀ options, event ≠ .create options) :
    creations (events ++ [event]) = creations events := by
  unfold creations
  rw [List.filterMap_append]
  cases event with
  | create options => exact absurd rfl (notCreate options)
  | _ => simp

theorem Recorded.of_internal
    {events : List TimerEvent} {outputs : List TimerOutput}
    (recorded : Recorded events outputs state)
    (isInternal : event.isInternal = true)
    (created : next.self.created = state.self.created)
    (timers :
      ∀ timer,
        (next.self.timers timer).options =
            (state.self.timers timer).options ∧
          (next.self.timers timer).stopped =
            (state.self.timers timer).stopped)
    (unnamed : ∀ timer time, .created timer time ∉ emitted) :
    Recorded (events ++ [event]) (outputs ++ emitted) next := by
  have notCreate : ∀ options, event ≠ .create options := by
    rintro options rfl
    cases isInternal
  have notStop : ∀ timer, event ≠ .stop timer := by
    rintro timer rfl
    cases isInternal
  constructor
  · rw [creations_concat_of_other events notCreate, created]
    exact recorded.created
  · intro timer inRange
    rw [created] at inRange
    rw [creations_concat_of_other events notCreate, (timers timer).1]
    exact recorded.options timer inRange
  · intro timer
    rw [created, (timers timer).2, ← recorded.stopped]
    simp [(notStop timer).symm]
  · intro timer time member
    rw [created]
    rcases List.mem_append.mp member with earlier | now
    · exact recorded.named timer time earlier
    · exact absurd now (unnamed timer time)

theorem Recorded.withTimer
    {events : List TimerEvent} {outputs : List TimerOutput}
    (recorded : Recorded events outputs state)
    (options : TimerOptions) (time : UInt64) :
    Recorded (events ++ [.create options])
      (outputs ++ [.created state.self.created time])
      ⟨state.self.withTimer options, state.position⟩ := by
  have new :
      (state.self.withTimer options).created = state.self.created + 1 :=
    rfl
  constructor
  · rw [creations_concat_create, List.length_append, recorded.created]
    rfl
  · intro timer inRange
    rw [creations_concat_create, UvEventLoop.withTimer_timers]
    by_cases same : timer = state.self.created
    · rw [same, Function.update_self, ← recorded.created,
        List.getElem?_concat_length]
      rfl
    · have old : timer < state.self.created := by
        rw [new] at inRange
        omega
      rw [Function.update_of_ne same,
        List.getElem?_append_left (recorded.created ▸ old)]
      exact recorded.options timer old
  · intro timer
    rw [UvEventLoop.withTimer_timers, new, List.mem_append,
      recorded.stopped]
    by_cases same : timer = state.self.created
    · simp [same]
    · rw [Function.update_of_ne same]
      simp
      omega
  · intro timer time' member
    rcases List.mem_append.mp member with earlier | now
    · exact Nat.lt_succ_of_lt (recorded.named timer time' earlier)
    · cases List.mem_singleton.mp now
      exact Nat.lt_succ_self _

theorem Recorded.stopping
    {events : List TimerEvent} {outputs : List TimerOutput}
    (recorded : Recorded events outputs state)
    {timer : Nat} (inRange : timer < state.self.created) :
    Recorded (events ++ [.stop timer]) (outputs ++ [.stopped true])
      ⟨state.self.stopping timer, state.position⟩ := by
  have notCreate : ∀ options, TimerEvent.stop timer ≠ .create options := by
    intro options same
    cases same
  constructor
  · rw [creations_concat_of_other events notCreate, recorded.created]
    exact (UvEventLoop.stopping_created state.self timer).symm
  · intro other created
    rw [UvEventLoop.stopping_created] at created
    rw [creations_concat_of_other events notCreate,
      recorded.options other created, UvEventLoop.stopping_timers]
    by_cases same : other = timer
    · rw [same, Function.update_self]
      rfl
    · rw [Function.update_of_ne same]
  · intro other
    rw [List.mem_append, recorded.stopped, UvEventLoop.stopping_created,
      UvEventLoop.stopping_timers]
    by_cases same : other = timer
    · rw [same, Function.update_self]
      simp [inRange]
    · rw [Function.update_of_ne same]
      simp [same]
  · intro other time member
    rw [UvEventLoop.stopping_created]
    rcases List.mem_append.mp member with earlier | now
    · exact recorded.named other time earlier
    · cases List.mem_singleton.mp now

theorem Recorded.of_advances
    {events : List TimerEvent} {outputs : List TimerOutput}
    (recorded : Recorded events outputs state)
    (advances : state.Advances event next emitted) :
    Recorded (events ++ [event]) (outputs ++ emitted) next := by
  cases advances with
  | created options => exact recorded.withTimer options _
  | stopped timer inRange => exact recorded.stopping inRange
  | quiet _ _ isInternal timers created =>
      refine recorded.of_internal isInternal created ?_ (by simp)
      intro timer
      rw [timers]
      exact ⟨rfl, rfl⟩
  | invoked =>
      exact
        recorded.of_internal rfl rfl (fun _ => ⟨rfl, rfl⟩) (by simp)
  | expired timer =>
      refine recorded.of_internal rfl (by simp) ?_ (by simp)
      intro other
      simp
  | finished timer =>
      refine recorded.of_internal rfl rfl ?_ (by simp)
      intro other
      rw [UvEventLoop.closedTimer_timers]
      by_cases same : other = timer
      · rw [same, Function.update_self]
        exact ⟨rfl, rfl⟩
      · rw [Function.update_of_ne same]
        exact ⟨rfl, rfl⟩
  | runReturned =>
      exact
        recorded.of_internal rfl rfl (fun _ => ⟨rfl, rfl⟩) (by simp)

/-- While no check fails, the state knows the past. -/
theorem recorded_of_unfailed
    {hrtime : UInt64} {events : List TimerEvent}
    {outputs : List TimerOutput}
    (ran :
      timerMachine.run (Running.init hrtime) events =
        some (state, outputs))
    (unfailed : Unfailed outputs) : Recorded events outputs state := by
  refine history_of_advances Recorded ?_ ?_ ran unfailed
  · constructor
    · rfl
    · intro timer created
      exact absurd created (Nat.not_lt_zero timer)
    · intro timer
      simp [Running.init, UvEventLoop.init]
    · intro timer time member
      exact absurd member List.not_mem_nil
  · intro _ _ _ _ _ _ _ recorded advances
    exact recorded.of_advances advances

/-- Every timer created has a callback and is stopped at most once. -/
structure Careful (events : List TimerEvent) : Prop where
  callbacks :
    ∀ options, .create options ∈ events → options.callback = true
  stopsOnce : ∀ timer, events.count (.stop timer) ≤ 1

/-- No check fails in a careful program. -/
theorem unfailed_of_careful
    {hrtime : UInt64} {events : List TimerEvent}
    {outputs : List TimerOutput}
    (ran :
      timerMachine.run (Running.init hrtime) events =
        some (state, outputs))
    (careful : Careful events) : Unfailed outputs := by
  rcases unfailed_or_refused ran with
    ⟨-, unfailed⟩ |
      ⟨-, history, event, middle, early, emitted, rfl, rfl, front, -,
        unfailed, refused⟩
  · exact unfailed
  · have recorded := recorded_of_unfailed front unfailed
    cases refused with
    | callbackIsNull options noCallback =>
        have hasCallback := careful.callbacks options (by simp)
        rw [noCallback] at hasCallback
        cases hasCallback
    | alreadyStopped timer inRange isStopped =>
        have before := (recorded.stopped timer).mpr ⟨inRange, isStopped⟩
        have counted := List.count_pos_iff.mpr before
        have once := careful.stopsOnce timer
        rw [List.count_append, List.count_singleton_self] at once
        omega

/-- `Run` returns only when the loop is not alive. -/
theorem Consistent.of_runReturned
    (consistent : state.Consistent)
    (returned :
      timerMachine.step state .proceed = some (next, [.runReturned])) :
    next.self = state.self ∧ next.self.Consistent none [] ∧
      next.self.uvLoop.alive = false := by
  obtain ⟨advances, agrees⟩ := consistent.proceed_advances returned
  cases advances with
  | runReturned rests => exact ⟨rfl, agrees, rests⟩

/-- No check fails in a careful program.  From its creation on until it is
closed, a timer holds a reference to itself, so it outlives its active or
closing handle.  When `Run` returns, all timers are closed, have dropped this
reference, and the event loop can be destroyed. -/
theorem timer_lifecycle
    {hrtime : UInt64} {events : List TimerEvent}
    {outputs : List TimerOutput}
    (ran :
      timerMachine.run (Running.init hrtime) events =
        some (state, outputs))
    (careful : Careful events) :
    (∀ failure, .failed failure ∉ outputs) ∧
      (∀ timer time, .created timer time ∈ outputs →
        (state.self.timers timer).closed =
            (state.self.uvLoop.handles timer).closed ∧
          (state.self.timers timer).self =
            !(state.self.timers timer).closed ∧
          ((state.self.uvLoop.handles timer).active = true →
            (state.self.timers timer).self = true) ∧
          ((state.self.uvLoop.handles timer).closing = true →
            (state.self.uvLoop.handles timer).closed = false →
              (state.self.timers timer).self = true)) ∧
      ∀ next,
        timerMachine.step state .proceed = some (next, [.runReturned]) →
          (∀ timer time, .created timer time ∈ outputs →
            (next.self.timers timer).closed = true ∧
              (next.self.timers timer).self = false) ∧
            UvEventLoop.destroy next.self = (.ok ⟨⟩, next.self) := by
  have unfailed := unfailed_of_careful ran careful
  have consistent := consistent_of_unfailed ran unfailed
  have recorded := recorded_of_unfailed ran unfailed
  refine ⟨unfailed, ?_, ?_⟩
  · intro timer time created
    have inRange := recorded.named timer time created
    have coherent := consistent.coherent timer inRange
    have tracked := consistent.wellFormed.tracked timer
    refine ⟨coherent.closed, ?_, ?_, ?_⟩
    · rw [coherent.closed]
      exact coherent.self
    · intro active
      have isOpen := tracked.open_of_active active
      rw [coherent.self, tracked.notClosed_of_open isOpen]
      rfl
    · intro _ notClosed
      rw [coherent.self, notClosed]
      rfl
  · intro next returned
    obtain ⟨same, agrees, rests⟩ := consistent.of_runReturned returned
    refine ⟨?_, agrees.destroy_run rests⟩
    intro timer time created
    have inRange : timer < next.self.created := by
      rw [same]
      exact recorded.named timer time created
    have coherent := agrees.coherent timer inRange
    have closed := agrees.closed_at_rest rests inRange
    rw [coherent.closed, coherent.self, closed]
    exact ⟨rfl, rfl⟩

/-- A timer that fires once and is stopped by its own callback. -/
def stoppedInCallback : List TimerEvent :=
  [.create (UvEventLoop.timeoutOptions 1 true), .run, .proceed,
    .clock 1000000, .proceed, .stop 0, .returned, .proceed, .clock 1000000,
    .proceed, .proceed, .clock 1000000, .proceed]

private theorem stoppedInCallback_run :
    ∃ state next,
      timerMachine.run (Running.init 0) stoppedInCallback =
          some (state, [.created 0 0, .invoked 0 1, .stopped true]) ∧
        timerMachine.step state .proceed = some (next, [.runReturned]) :=
  ⟨_, _, rfl, rfl⟩

private theorem careful_stoppedInCallback : Careful stoppedInCallback where
  callbacks := by simp [stoppedInCallback, UvEventLoop.timeoutOptions]
  stopsOnce := by
    intro timer
    by_cases first : timer = 0
    · rw [first]
      decide
    · simp [stoppedInCallback, Ne.symm first]

theorem timer_lifecycle_stoppedInCallback :
    ∃ state next,
      timerMachine.run (Running.init 0) stoppedInCallback =
          some (state, [.created 0 0, .invoked 0 1, .stopped true]) ∧
        timerMachine.step state .proceed = some (next, [.runReturned]) ∧
        (next.self.timers 0).closed = true ∧
        (next.self.timers 0).self = false ∧
        UvEventLoop.destroy next.self = (.ok ⟨⟩, next.self) := by
  obtain ⟨state, next, ran, returned⟩ := stoppedInCallback_run
  obtain ⟨-, -, atRest⟩ := timer_lifecycle ran careful_stoppedInCallback
  obtain ⟨closed, destroyed⟩ := atRest next returned
  obtain ⟨isClosed, released⟩ := closed 0 0 (by simp)
  exact ⟨state, next, ran, returned, isClosed, released, destroyed⟩

end Running

end DkPull.Event
