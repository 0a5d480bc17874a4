import DkPull.Event.TimerFiring
import DkPull.Event.TimerMoves
import Mathlib.Algebra.Group.Nat.Defs

/-!
# In which order timers fire

Timers that fire once do so in the order in which they are due, and in the
order of their creation when they are due at the same time.  When libuv is done
with a pass over the timers, none that is due is left.
-/

namespace DkPull.Event

open DkPull.Libuv
open DkPull.Reactive

/-- A timer that fires once has been created, and is due at the given time. -/
def DueAt
    (events : List TimerEvent) (outputs : List TimerOutput) (timer : Nat)
    (due : UInt64) : Prop :=
  ∃ options time,
    (creations events)[timer]? = some options ∧
      options.type = .oneTime ∧
      .created timer time ∈ outputs ∧
      due = Loop.clampedTimeout time options.delay

namespace Running

/-- The handles tell when timers are due and in which order they were
started. -/
structure Scheduled
    (events : List TimerEvent) (outputs : List TimerOutput)
    (state : Running) : Prop where
  counter : state.self.uvLoop.timerCounter.toNat ≤ events.length
  started :
    ∀ timer < state.self.created,
      (state.self.uvLoop.handles timer).startId <
        state.self.uvLoop.timerCounter
  increasing :
    ∀ first second,
      first < second → second < state.self.created →
        (state.self.timers first).type = .oneTime →
          (state.self.uvLoop.handles first).startId <
            (state.self.uvLoop.handles second).startId
  due :
    ∀ timer time,
      .created timer time ∈ outputs →
        timer < state.self.created ∧
          ((state.self.timers timer).type = .oneTime →
            (state.self.uvLoop.handles timer).timeout =
              Loop.clampedTimeout time (state.self.timers timer).delay)

variable {state next : Running} {event : TimerEvent}
  {events : List TimerEvent} {outputs emitted : List TimerOutput}

theorem Scheduled.of_sameSchedule
    (scheduled : Scheduled events outputs state)
    (same : SameSchedule state next)
    (noneCreated : ∀ timer time, .created timer time ∉ emitted) :
    Scheduled (events ++ [event]) (outputs ++ emitted) next := by
  have types :
      ∀ timer,
        (next.self.timers timer).type = (state.self.timers timer).type :=
    fun timer => congrArg TimerOptions.type (same.options timer)
  have delays :
      ∀ timer,
        (next.self.timers timer).delay = (state.self.timers timer).delay :=
    fun timer => congrArg TimerOptions.delay (same.options timer)
  constructor
  · rw [same.counter, List.length_append]
    exact Nat.le_add_right_of_le scheduled.counter
  · intro timer inRange
    rw [same.created] at inRange
    rw [same.startId, same.counter]
    exact scheduled.started timer inRange
  · intro first second before inRange once
    rw [same.created] at inRange
    rw [types] at once
    rw [same.startId, same.startId]
    exact scheduled.increasing first second before inRange once
  · intro timer time created
    rcases List.mem_append.mp created with earlier | now
    · rw [same.created, types, delays, same.timeout]
      exact scheduled.due timer time earlier
    · exact absurd now (noneCreated timer time)

private theorem counter_succ
    (counter : UInt64) (room : counter.toNat + 1 < 2 ^ 64) :
    counter < counter + 1 ∧ (counter + 1).toNat = counter.toNat + 1 := by
  have succ : (counter + 1).toNat = counter.toNat + 1 := by
    rw [UInt64.toNat_add]
    exact Nat.mod_eq_of_lt room
  refine ⟨?_, succ⟩
  rw [UInt64.lt_iff_toNat_lt, succ]
  exact Nat.lt_succ_self _

theorem Scheduled.withTimer
    (scheduled : Scheduled events outputs state)
    (room : events.length + 1 < 2 ^ 64) {options : TimerOptions}
    (isNext : next.self = state.self.withTimer options) :
    Scheduled (events ++ [event])
      (outputs ++ [.created state.self.created state.self.uvLoop.time])
      next := by
  have counted := scheduled.counter
  obtain ⟨greater, succ⟩ :=
    counter_succ state.self.uvLoop.timerCounter (by omega)
  have counter :
      next.self.uvLoop.timerCounter = state.self.uvLoop.timerCounter + 1 := by
    rw [isNext]
    rfl
  have created : next.self.created = state.self.created + 1 := by
    rw [isNext]
    rfl
  have older :
      ∀ timer < state.self.created,
        next.self.uvLoop.handles timer = state.self.uvLoop.handles timer ∧
          next.self.timers timer = state.self.timers timer := by
    intro timer inRange
    have different : timer ≠ state.self.created := Nat.ne_of_lt inRange
    rw [isNext, UvEventLoop.withTimer_handles, UvEventLoop.withTimer_timers,
      Function.update_of_ne different, Function.update_of_ne different]
    exact ⟨rfl, rfl⟩
  have newest :
      (next.self.uvLoop.handles state.self.created).startId =
          state.self.uvLoop.timerCounter ∧
        (next.self.uvLoop.handles state.self.created).timeout =
          Loop.clampedTimeout state.self.uvLoop.time options.delay ∧
        (next.self.timers state.self.created).delay = options.delay := by
    rw [isNext, UvEventLoop.withTimer_handles, UvEventLoop.withTimer_timers,
      Function.update_self, Function.update_self]
    exact ⟨rfl, rfl, rfl⟩
  constructor
  · rw [counter, succ, List.length_append]
    exact Nat.succ_le_succ counted
  · intro timer inRange
    rw [created] at inRange
    rw [counter]
    rcases Nat.lt_succ_iff_lt_or_eq.mp inRange with old | rfl
    · rw [(older timer old).1]
      exact UInt64.lt_trans (scheduled.started timer old) greater
    · rw [newest.1]
      exact greater
  · intro first second before inRange once
    rw [created] at inRange
    have firstOld : first < state.self.created := by omega
    rw [(older first firstOld).2] at once
    rw [(older first firstOld).1]
    rcases Nat.lt_succ_iff_lt_or_eq.mp inRange with old | rfl
    · rw [(older second old).1]
      exact scheduled.increasing first second before old once
    · rw [newest.1]
      exact scheduled.started first firstOld
  · intro timer time isCreated
    rcases List.mem_append.mp isCreated with earlier | now
    · obtain ⟨inRange, due⟩ := scheduled.due timer time earlier
      rw [created, (older timer inRange).1, (older timer inRange).2]
      exact ⟨Nat.lt_succ_of_lt inRange, due⟩
    · cases List.mem_singleton.mp now
      rw [created]
      refine ⟨Nat.lt_succ_self _, fun _ => ?_⟩
      rw [newest.2.1, newest.2.2]

theorem Scheduled.of_rearmed
    (scheduled : Scheduled events outputs state)
    (room : events.length + 1 < 2 ^ 64) {timer : Nat}
    (inRange : timer < state.self.created)
    (repeated : (state.self.timers timer).type = .repeated)
    (isNext :
      next.self =
        { state.self with
          uvLoop :=
            (state.self.uvLoop.timerStop timer).activate timer 1 1 })
    (noneCreated : ∀ other time, .created other time ∉ emitted) :
    Scheduled (events ++ [event]) (outputs ++ emitted) next := by
  have counted := scheduled.counter
  obtain ⟨greater, succ⟩ :=
    counter_succ state.self.uvLoop.timerCounter (by omega)
  have counter :
      next.self.uvLoop.timerCounter = state.self.uvLoop.timerCounter + 1 := by
    rw [isNext, ← Loop.timerStop_timerCounter state.self.uvLoop timer]
    rfl
  have created : next.self.created = state.self.created := by
    rw [isNext]
  have timers : next.self.timers = state.self.timers := by
    rw [isNext]
  have others :
      ∀ other ≠ timer,
        next.self.uvLoop.handles other = state.self.uvLoop.handles other := by
    intro other different
    rw [isNext]
    change (Loop.activate _ _ _ _).handles other = _
    rw [Loop.activate_handles, Function.update_of_ne different,
      Loop.timerStop_handles, Function.update_of_ne different]
  have restarted :
      (next.self.uvLoop.handles timer).startId =
        state.self.uvLoop.timerCounter := by
    rw [isNext]
    change ((Loop.activate _ _ _ _).handles timer).startId = _
    rw [Loop.activate_handles, Function.update_self]
    exact Loop.timerStop_timerCounter _ _
  constructor
  · rw [counter, succ, List.length_append]
    exact Nat.succ_le_succ counted
  · intro other otherInRange
    rw [created] at otherInRange
    rw [counter]
    by_cases same : other = timer
    · rw [same, restarted]
      exact greater
    · rw [others other same]
      exact UInt64.lt_trans (scheduled.started other otherInRange) greater
  · intro first second before secondInRange once
    rw [created] at secondInRange
    rw [timers] at once
    have firstOther : first ≠ timer := by
      rintro rfl
      rw [once] at repeated
      cases repeated
    rw [others first firstOther]
    by_cases same : second = timer
    · rw [same, restarted]
      exact scheduled.started first (by omega)
    · rw [others second same]
      exact scheduled.increasing first second before secondInRange once
  · intro other time isCreated
    rcases List.mem_append.mp isCreated with earlier | now
    · obtain ⟨otherInRange, due⟩ := scheduled.due other time earlier
      rw [created, timers]
      refine ⟨otherInRange, fun once => ?_⟩
      have different : other ≠ timer := by
        rintro rfl
        rw [once] at repeated
        cases repeated
      rw [others other different]
      exact due once
    · exact absurd now (noneCreated other time)

theorem scheduled_of_unfailed
    {hrtime : UInt64}
    (ran :
      timerMachine.run (Running.init hrtime) events =
        some (state, outputs))
    (unfailed : Unfailed outputs) (few : events.length < 2 ^ 64) :
    Scheduled events outputs state := by
  refine
    history_of_moves
      (fun history outputs state =>
        history.length < 2 ^ 64 → Scheduled history outputs state)
      ?_ ?_ ran unfailed few
  · intro _
    constructor
    · exact Nat.le_refl 0
    · intro timer inRange
      exact absurd inRange (Nat.not_lt_zero _)
    · intro first second _ inRange
      exact absurd inRange (Nat.not_lt_zero _)
    · intro timer time created
      exact absurd created List.not_mem_nil
  · intro history outputs state event next emitted consistent earlier moves
      short
    rw [List.length_append, List.length_singleton] at short
    have scheduled := earlier (by omega)
    rcases moves.schedule consistent with
      ⟨same, noneCreated⟩ | ⟨options, rfl, isNext⟩ |
        ⟨timer, rfl, inRange, repeated, isNext⟩
    · exact scheduled.of_sameSchedule same noneCreated
    · exact scheduled.withTimer short isNext
    · exact
        scheduled.of_rearmed short inRange repeated isNext (by simp)

/-- A timer that fires once, has not been stopped and has not been called yet
is in the heap. -/
theorem called_or_waiting
    {hrtime : UInt64}
    (ran :
      timerMachine.run (Running.init hrtime) events =
        some (state, outputs))
    (unfailed : Unfailed outputs) {timer : Nat} {due : UInt64}
    (isDue : DueAt events outputs timer due)
    (unstopped : .stop timer ∉ events) :
    (invocations timer outputs).length = 1 ∨
      timer ∈ state.self.uvLoop.timerHeap := by
  obtain ⟨options, time, created, once, -, -⟩ := isDue
  have consistent := consistent_of_unfailed ran unfailed
  have recorded := recorded_of_unfailed ran unfailed
  have fired := fired_of_unfailed ran unfailed
  obtain ⟨inRange, sameOptions⟩ := recorded.created_of_options created
  have type : (state.self.timers timer).type = .oneTime := by
    rw [← once, ← sameOptions]
    rfl
  have notStopped : (state.self.timers timer).stopped = false := by
    rw [← Bool.not_eq_true]
    intro stopped
    exact unstopped ((recorded.stopped timer).mpr ⟨inRange, stopped⟩)
  cases active : (state.self.uvLoop.handles timer).active with
  | false =>
      exact .inl ((fired.once timer inRange type).already active notStopped)
  | true =>
      exact .inr ((consistent.wellFormed.tracked timer).active.mpr active)

/-- The handle of a timer that fires once is due when the timer is. -/
theorem Scheduled.timeout_of_dueAt
    (scheduled : Scheduled events outputs state)
    (recorded : Recorded events outputs state) {timer : Nat} {due : UInt64}
    (isDue : DueAt events outputs timer due) :
    timer < state.self.created ∧
      (state.self.timers timer).type = .oneTime ∧
      (state.self.uvLoop.handles timer).timeout = due := by
  obtain ⟨options, time, created, once, isCreated, rfl⟩ := isDue
  obtain ⟨inRange, sameOptions⟩ := recorded.created_of_options created
  have type : (state.self.timers timer).type = .oneTime := by
    rw [← once, ← sameOptions]
    rfl
  have delay : (state.self.timers timer).delay = options.delay := by
    rw [← sameOptions]
    rfl
  refine ⟨inRange, type, ?_⟩
  rw [(scheduled.due timer time isCreated).2 type, delay]

/-- When a timer that fires once does so, it is due, and all timers before it
in the order of the times at which they are due, and of their creation, have
fired or been stopped. -/
theorem timers_fire_in_order
    {hrtime : UInt64}
    (ran :
      timerMachine.run (Running.init hrtime) events =
        some (state, outputs))
    (few : events.length < 2 ^ 64) {timer : Nat} {time due : UInt64}
    (stepped :
      timerMachine.step state event = some (next, [.invoked timer time]))
    (isDue : DueAt events outputs timer due) :
    due ≤ time ∧
      ∀ other otherDue,
        DueAt events outputs other otherDue →
        .stop other ∉ events →
        otherDue < due ∨ otherDue = due ∧ other < timer →
          (invocations other outputs).length = 1 := by
  have unfailed := unfailed_of_step ran stepped
  have consistent := consistent_of_unfailed ran unfailed
  have recorded := recorded_of_unfailed ran unfailed
  have scheduled := scheduled_of_unfailed ran unfailed few
  obtain ⟨inRange, type, timeout⟩ :=
    scheduled.timeout_of_dueAt recorded isDue
  rcases consistent.moves stepped with ⟨moves, -⟩ | ⟨refused, -⟩
  · cases moves with
    | invoked _ last isHere least notEarly =>
        rw [timeout] at notEarly
        refine ⟨notEarly, ?_⟩
        intro other otherDue otherIsDue unstopped before
        obtain ⟨otherInRange, otherType, otherTimeout⟩ :=
          scheduled.timeout_of_dueAt recorded otherIsDue
        rcases called_or_waiting ran unfailed otherIsDue unstopped with
          called | waiting
        · exact called
        · exfalso
          have notLess := Loop.heapMin_le least waiting
          rw [Handle.key, Handle.key, timeout, otherTimeout,
            Prod.Lex.toLex_le_toLex] at notLess
          rcases before with earlier | ⟨rfl, older⟩
          · rw [UInt64.lt_iff_toNat_lt] at earlier
            dsimp only at notLess
            omega
          · have started :=
              scheduled.increasing other timer older inRange otherType
            rw [UInt64.lt_iff_toNat_lt] at started
            dsimp only at notLess
            omega
  · obtain ⟨failure, impossible⟩ := refused.fails
    cases impossible

end Running

end DkPull.Event
