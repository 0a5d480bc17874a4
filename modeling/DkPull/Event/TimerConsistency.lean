import DkPull.Event.UvEventLoop
import DkPull.Libuv.Lifecycle

/-!
# Timers and their handles

The flags of a `UvTimer` and its reference to itself shadow the state of its
handle.  Every function of a timer, and every step that libuv takes on its
handle, keeps the two in agreement.
-/

namespace DkPull.Event

open DkPull.Libuv
open DkPull.Reactive

def TimerType.repeatTime : TimerType → UInt64
  | .oneTime => 0
  | .repeated => 1

/-- A timer agrees with its handle.  The handle of an unclosed timer is
inactive only while the callback of a timer that fires once is running. -/
structure Coherent
    (timer : UvTimer) (handle : Handle) (isInCallback : Prop) :
    Prop where
  started : timer.started = true
  self : timer.self = !handle.closed
  closed : timer.closed = handle.closed
  stopped : timer.stopped = true → handle.closing = true
  closeCb : handle.closing = true → handle.closeCb = true
  repeatTime : handle.repeatTime = timer.type.repeatTime
  resting :
    handle.active = false → handle.closing = false →
      timer.type = .oneTime ∧ isInCallback
  idle :
    isInCallback → timer.type = .oneTime → handle.active = false

section Coherent

variable {timer : UvTimer} {handle : Handle} {isInCallback : Prop}

theorem Coherent.fires_once
    (coherent : Coherent timer handle isInCallback)
    (once : timer.type = .oneTime) : handle.repeatTime = 0 := by
  rw [coherent.repeatTime, once]
  rfl

/-- Whatever its delay is, a timer that repeats does so every millisecond. -/
theorem Coherent.repeats
    (coherent : Coherent timer handle isInCallback)
    (repeated : timer.type = .repeated) : handle.repeatTime = 1 := by
  rw [coherent.repeatTime, repeated]
  rfl

end Coherent

namespace UvEventLoop

/-- Every timer of an event loop agrees with its handle, where `current` is the
timer whose callback is running and `taken` are the handles that libuv is
closing. -/
structure Consistent
    (eventLoop : UvEventLoop) (current : Option Nat) (taken : List Nat) :
    Prop where
  wellFormed : eventLoop.uvLoop.WellFormed taken
  coherent :
    ∀ timer < eventLoop.created,
      Coherent (eventLoop.timers timer) (eventLoop.uvLoop.handles timer)
        (current = some timer)
  blank :
    ∀ timer, eventLoop.created ≤ timer → eventLoop.uvLoop.handles timer = {}
  queued : ∀ timer ∈ eventLoop.uvLoop.handleQueue, timer < eventLoop.created
  running : ∀ timer, current = some timer → timer < eventLoop.created

variable {eventLoop next : UvEventLoop} {current : Option Nat}
  {taken : List Nat} {timer : Nat}

theorem Consistent.init (hrtime : UInt64) :
    (init hrtime).Consistent none [] where
  wellFormed := Loop.WellFormed.init hrtime
  coherent := fun _ created => absurd created (Nat.not_lt_zero _)
  blank := fun _ _ => rfl
  queued := fun _ queued => absurd queued List.not_mem_nil
  running := fun _ none => by cases none

theorem Consistent.created_of_active
    (consistent : eventLoop.Consistent current taken)
    (active : (eventLoop.uvLoop.handles timer).active = true) :
    timer < eventLoop.created := by
  by_contra fresh
  rw [consistent.blank timer (Nat.not_lt.mp fresh)] at active
  cases active

theorem Consistent.created_of_closing
    (consistent : eventLoop.Consistent current taken)
    (closing : (eventLoop.uvLoop.handles timer).closing = true) :
    timer < eventLoop.created := by
  by_contra fresh
  rw [consistent.blank timer (Nat.not_lt.mp fresh)] at closing
  cases closing

/-- The next state of an event loop differs in one timer only. -/
structure Changes (eventLoop next : UvEventLoop) (timer : Nat) : Prop where
  created : next.created = eventLoop.created
  timers : ∀ other ≠ timer, next.timers other = eventLoop.timers other
  handles :
    ∀ other ≠ timer,
      next.uvLoop.handles other = eventLoop.uvLoop.handles other
  queue : next.uvLoop.handleQueue ⊆ eventLoop.uvLoop.handleQueue

/-- When one timer changes, only this timer has to be looked at. -/
theorem Consistent.of_changes
    (consistent : eventLoop.Consistent current taken)
    (changes : eventLoop.Changes next timer)
    (inRange : timer < eventLoop.created)
    {nextCurrent : Option Nat} {nextTaken : List Nat}
    (wellFormed : next.uvLoop.WellFormed nextTaken)
    (now :
      Coherent (next.timers timer) (next.uvLoop.handles timer)
        (nextCurrent = some timer))
    (others :
      ∀ other ≠ timer, nextCurrent = some other ↔ current = some other) :
    next.Consistent nextCurrent nextTaken where
  wellFormed := wellFormed
  coherent := by
    intro other created
    by_cases same : other = timer
    · rw [same]
      exact now
    · rw [changes.created] at created
      rw [changes.timers other same, changes.handles other same]
      rw [others other same]
      exact consistent.coherent other created
  blank := by
    intro other fresh
    rw [changes.created] at fresh
    rw [changes.handles other
      (Nat.ne_of_gt (Nat.lt_of_lt_of_le inRange fresh))]
    exact consistent.blank other fresh
  queued := by
    intro other queued
    rw [changes.created]
    exact consistent.queued other (changes.queue queued)
  running := by
    intro other running
    rw [changes.created]
    by_cases same : other = timer
    · exact same ▸ inRange
    · exact consistent.running other ((others other same).mp running)

def withTimer (eventLoop : UvEventLoop) (options : TimerOptions) :
    UvEventLoop where
  uvLoop :=
    (eventLoop.uvLoop.timerInit eventLoop.created).activate eventLoop.created
      options.delay options.type.repeatTime
  timers :=
    Function.update eventLoop.timers eventLoop.created
      { callback := options.callback
        delay := options.delay
        type := options.type
        self := true
        started := true }
  created := eventLoop.created + 1

/-- The event loop behind the constructor of `UvTimer`. -/
def constructed (eventLoop : UvEventLoop) (options : TimerOptions) :
    UvEventLoop where
  uvLoop := eventLoop.uvLoop.timerInit eventLoop.created
  timers :=
    Function.update eventLoop.timers eventLoop.created
      { callback := options.callback
        delay := options.delay
        type := options.type }
  created := eventLoop.created + 1

private theorem construct_run
    (options : TimerOptions) (hasCallback : options.callback = true)
    (eventLoop : UvEventLoop) :
    UvTimer.construct options eventLoop =
      (.ok eventLoop.created, eventLoop.constructed options) := by
  simp [UvTimer.construct, check, hasCallback, constructed]

theorem createTimer_run
    (options : TimerOptions) (hasCallback : options.callback = true)
    (eventLoop : UvEventLoop) :
    createTimer options eventLoop =
      (.ok eventLoop.created, eventLoop.withTimer options) := by
  have inactive :
      ((eventLoop.constructed options).uvLoop.handles
        eventLoop.created).active = false := by
    simp [constructed, Loop.timerInit, Loop.update, Handle.initialised]
  have isOpen :
      ((eventLoop.constructed options).uvLoop.handles
        eventLoop.created).isClosing = false := by
    simp [constructed, Loop.timerInit, Loop.update, Handle.initialised,
      Handle.isClosing]
  have timer :
      (eventLoop.constructed options).timers eventLoop.created =
        { callback := options.callback
          delay := options.delay
          type := options.type } :=
    Function.update_self _ _ _
  have repeatTime :
      (if options.type = .repeated then (1 : UInt64) else 0) =
        options.type.repeatTime := by
    cases options.type <;> rfl
  rw [createTimer, UvTimer.create,
    Throwing.bind_of_ok (construct_run options hasCallback eventLoop)]
  simp only [UvTimer.start, check, UvTimer.write, UvTimer.call, timer,
    isOpen, Loop.timerStart_of_open isOpen,
    Loop.timerStop_of_inactive inactive, repeatTime, Throwing.bind_run,
    Throwing.get_run, Throwing.pure_run, Throwing.modify_run, Bool.not_false,
    if_true, Function.update_idem, Function.update_self]
  simp [constructed, withTimer]

theorem withTimer_timers
    (eventLoop : UvEventLoop) (options : TimerOptions) :
    (eventLoop.withTimer options).timers =
      Function.update eventLoop.timers eventLoop.created
        { callback := options.callback
          delay := options.delay
          type := options.type
          self := true
          started := true } :=
  rfl

theorem withTimer_handles
    (eventLoop : UvEventLoop) (options : TimerOptions) :
    (eventLoop.withTimer options).uvLoop.handles =
      Function.update eventLoop.uvLoop.handles eventLoop.created
        { active := true
          timerCb := true
          closeCb := (eventLoop.uvLoop.handles eventLoop.created).closeCb
          timeout :=
            Loop.clampedTimeout eventLoop.uvLoop.time options.delay
          repeatTime := options.type.repeatTime
          startId := eventLoop.uvLoop.timerCounter } := by
  simp [withTimer, Loop.activate_handles, Loop.timerInit, Loop.update,
    Handle.initialised]

theorem Consistent.withTimer
    (consistent : eventLoop.Consistent current taken)
    (options : TimerOptions) :
    (eventLoop.withTimer options).Consistent current taken := by
  have blank := consistent.blank eventLoop.created (Nat.le_refl _)
  have unqueued : eventLoop.created ∉ eventLoop.uvLoop.handleQueue :=
    fun queued => Nat.lt_irrefl _ (consistent.queued _ queued)
  have initialised := consistent.wellFormed.timerInit blank unqueued
  constructor
  · apply initialised.activate <;>
      simp [Loop.timerInit, Loop.update, Handle.initialised]
  · intro timer created
    rw [withTimer_handles, withTimer_timers]
    by_cases new : timer = eventLoop.created
    · rw [new, Function.update_self, Function.update_self]
      exact
        { started := rfl
          self := rfl
          closed := rfl
          stopped := fun stopped => by cases stopped
          closeCb := fun closing => by cases closing
          repeatTime := rfl
          resting := fun inactive _ => by cases inactive
          idle := fun running =>
            absurd (consistent.running _ running) (Nat.lt_irrefl _) }
    · rw [Function.update_of_ne new, Function.update_of_ne new]
      exact
        consistent.coherent timer
          (Nat.lt_of_le_of_ne (Nat.le_of_lt_succ created) new)
  · intro timer fresh
    have old : eventLoop.created < timer := fresh
    rw [withTimer_handles, Function.update_of_ne (Nat.ne_of_gt old)]
    exact consistent.blank timer (Nat.le_of_lt old)
  · intro timer queued
    change timer ∈ eventLoop.uvLoop.handleQueue ++ [eventLoop.created]
      at queued
    rcases List.mem_append.mp queued with earlier | now
    · exact Nat.lt_succ_of_lt (consistent.queued timer earlier)
    · rw [List.mem_singleton.mp now]
      exact Nat.lt_succ_self _
  · intro timer running
    exact Nat.lt_succ_of_lt (consistent.running timer running)

/-! ## Stopping and closing -/

def closing (eventLoop : UvEventLoop) (timer : Nat) : UvEventLoop :=
  if (eventLoop.uvLoop.handles timer).closing then eventLoop
  else
    { eventLoop with uvLoop := eventLoop.uvLoop.enterClosing timer true }

@[simp]
theorem closing_created (eventLoop : UvEventLoop) (timer : Nat) :
    (eventLoop.closing timer).created = eventLoop.created := by
  unfold UvEventLoop.closing
  split <;> rfl

@[simp]
theorem closing_timers (eventLoop : UvEventLoop) (timer : Nat) :
    (eventLoop.closing timer).timers = eventLoop.timers := by
  unfold UvEventLoop.closing
  split <;> rfl

@[simp]
theorem closing_time (eventLoop : UvEventLoop) (timer : Nat) :
    (eventLoop.closing timer).uvLoop.time = eventLoop.uvLoop.time := by
  unfold UvEventLoop.closing
  split
  · rfl
  · exact Loop.timerStop_time eventLoop.uvLoop timer

private theorem closing_closes (eventLoop : UvEventLoop) (timer : Nat) :
    ((eventLoop.closing timer).uvLoop.handles timer).closing = true := by
  unfold UvEventLoop.closing
  split
  · assumption
  · rw [Loop.enterClosing_handles, Function.update_self]

theorem closing_handles_self (eventLoop : UvEventLoop) (timer : Nat) :
    (eventLoop.closing timer).uvLoop.handles timer =
      if (eventLoop.uvLoop.handles timer).closing then
        eventLoop.uvLoop.handles timer
      else
        { eventLoop.uvLoop.handles timer with
          active := false
          closing := true
          closeCb := true } := by
  unfold UvEventLoop.closing
  split
  · rfl
  · rw [Loop.enterClosing_handles, Function.update_self]

theorem closing_handles_of_ne
    {other : Nat} (different : other ≠ timer) :
    (eventLoop.closing timer).uvLoop.handles other =
      eventLoop.uvLoop.handles other := by
  unfold UvEventLoop.closing
  split
  · rfl
  · rw [Loop.enterClosing_handles, Function.update_of_ne different]

private theorem close_run
    (started : (eventLoop.timers timer).started = true)
    (closed :
      (eventLoop.timers timer).closed = true →
        (eventLoop.uvLoop.handles timer).closing = true)
    (isClosing :
      (eventLoop.uvLoop.handles timer).isClosing =
        (eventLoop.uvLoop.handles timer).closing) :
    UvTimer.close timer eventLoop =
      (.ok ⟨⟩, eventLoop.closing timer) := by
  cases isOpen : (eventLoop.uvLoop.handles timer).closing with
  | true =>
      simp [UvTimer.close, UvEventLoop.closing, isClosing, isOpen]
  | false =>
      rw [isOpen] at isClosing closed
      have notClosed : (eventLoop.timers timer).closed = false := by
        rw [← Bool.not_eq_true]
        exact fun isClosed => Bool.false_ne_true (closed isClosed)
      simp [UvTimer.close, UvEventLoop.closing, UvTimer.callAsserting,
        UvTimer.call, isClosing, isOpen, notClosed, started,
        Loop.close_of_open isClosing]

theorem Consistent.closing_of_closed
    (consistent : eventLoop.Consistent current taken)
    (inRange : timer < eventLoop.created)
    (closed : (eventLoop.timers timer).closed = true) :
    (eventLoop.uvLoop.handles timer).closing = true := by
  rw [(consistent.coherent timer inRange).closed] at closed
  exact (consistent.wellFormed.tracked timer).closing_of_closed closed

private theorem Consistent.close_run
    (consistent : eventLoop.Consistent current taken)
    (inRange : timer < eventLoop.created) :
    UvTimer.close timer eventLoop = (.ok ⟨⟩, eventLoop.closing timer) :=
  UvEventLoop.close_run (consistent.coherent timer inRange).started
    (consistent.closing_of_closed inRange)
    (consistent.wellFormed.isClosing_eq timer)

private theorem Consistent.closing
    (consistent : eventLoop.Consistent current taken)
    (inRange : timer < eventLoop.created) {nextCurrent : Option Nat}
    (others :
      ∀ other ≠ timer, nextCurrent = some other ↔ current = some other)
    (sooner : nextCurrent = some timer → current = some timer) :
    (eventLoop.closing timer).Consistent nextCurrent taken := by
  have coherent := consistent.coherent timer inRange
  unfold UvEventLoop.closing
  split
  · rename_i closing
    apply consistent.of_changes _ inRange consistent.wellFormed _ others
    · exact ⟨rfl, fun _ _ => rfl, fun _ _ => rfl, List.Subset.refl _⟩
    · refine
        { coherent with
          resting := ?_
          idle := fun running => coherent.idle (sooner running) }
      intro _ isOpen
      rw [closing] at isOpen
      cases isOpen
  · rename_i isOpen
    rw [Bool.not_eq_true] at isOpen
    have wellFormed := consistent.wellFormed.enterClosing isOpen true
    apply consistent.of_changes _ inRange wellFormed _ others
    · refine ⟨rfl, fun _ _ => rfl, ?_, ?_⟩
      · intro other different
        rw [Loop.enterClosing_handles, Function.update_of_ne different]
      · exact fun _ queued =>
          Loop.timerStop_handleQueue eventLoop.uvLoop timer ▸ queued
    · rw [Loop.enterClosing_handles, Function.update_self]
      exact
        { coherent with
          stopped := fun _ => rfl
          closeCb := fun _ => rfl
          resting := fun _ isOpen => by cases isOpen
          idle := fun _ _ => rfl }

def stopping (eventLoop : UvEventLoop) (timer : Nat) : UvEventLoop :=
  { eventLoop.closing timer with
    timers :=
      Function.update eventLoop.timers timer
        { eventLoop.timers timer with stopped := true } }

theorem stopping_timers (eventLoop : UvEventLoop) (timer : Nat) :
    (eventLoop.stopping timer).timers =
      Function.update eventLoop.timers timer
        { eventLoop.timers timer with stopped := true } :=
  rfl

@[simp]
theorem stopping_created (eventLoop : UvEventLoop) (timer : Nat) :
    (eventLoop.stopping timer).created = eventLoop.created :=
  closing_created eventLoop timer

@[simp]
theorem stopping_uvLoop (eventLoop : UvEventLoop) (timer : Nat) :
    (eventLoop.stopping timer).uvLoop =
      (eventLoop.closing timer).uvLoop :=
  rfl

theorem Consistent.stop_run
    (consistent : eventLoop.Consistent current taken)
    (inRange : timer < eventLoop.created)
    (unstopped : (eventLoop.timers timer).stopped = false) :
    UvTimer.stop timer eventLoop =
      (.ok true, eventLoop.stopping timer) := by
  have started := (consistent.coherent timer inRange).started
  have closed := consistent.closing_of_closed inRange
  have isClosing := consistent.wellFormed.isClosing_eq timer
  simp only [UvTimer.stop, check, UvTimer.write, UvTimer.call, started,
    unstopped, Throwing.bind_run, Throwing.get_run, Throwing.pure_run,
    Throwing.modify_run, Bool.not_false, if_true]
  rw [UvEventLoop.close_run]
  · cases isOpen : (eventLoop.uvLoop.handles timer).closing with
    | true =>
        have inactive :=
          (consistent.wellFormed.tracked timer).inactive_of_closing isOpen
        simp [stopping, UvEventLoop.closing, isOpen, started,
          Loop.timerStop_of_inactive inactive]
    | false =>
        simp [stopping, UvEventLoop.closing, isOpen, started,
          Loop.timerStop_enterClosing]
  · simp
  · simpa using closed
  · simpa [Handle.isClosing] using isClosing

theorem Consistent.stop_run_again
    (consistent : eventLoop.Consistent current taken)
    (inRange : timer < eventLoop.created)
    (stopped : (eventLoop.timers timer).stopped = true) :
    UvTimer.stop timer eventLoop =
      (.error .alreadyStopped, eventLoop) := by
  have started := (consistent.coherent timer inRange).started
  simp [UvTimer.stop, check, started, stopped]

theorem Consistent.stopping
    (consistent : eventLoop.Consistent current taken)
    (inRange : timer < eventLoop.created) :
    (eventLoop.stopping timer).Consistent current taken := by
  have closed := consistent.closing inRange (fun _ _ => Iff.rfl) id
  have inRange' : timer < (eventLoop.closing timer).created :=
    closing_created eventLoop timer ▸ inRange
  have coherent := closed.coherent timer inRange'
  rw [closing_timers] at coherent
  have wellFormed : (eventLoop.stopping timer).uvLoop.WellFormed taken :=
    closed.wellFormed
  apply closed.of_changes _ inRange' wellFormed _ fun _ _ => Iff.rfl
  · refine ⟨rfl, ?_, fun _ _ => rfl, List.Subset.refl _⟩
    intro other different
    rw [stopping_timers, closing_timers, Function.update_of_ne different]
  · rw [stopping_timers, Function.update_self]
    exact
      { coherent with stopped := fun _ => closing_closes eventLoop timer }

/-- Once the callback of a timer is called, the timer has been rearmed if it
repeats, and waits to be closed otherwise. -/
theorem Consistent.nextTimer
    (consistent : eventLoop.Consistent none [])
    {uvLoop : Loop}
    (found : eventLoop.uvLoop.nextTimer = some (timer, uvLoop)) :
    ({ eventLoop with uvLoop := uvLoop } : UvEventLoop).Consistent
      (some timer) [] := by
  obtain ⟨active, -, rfl⟩ :=
    consistent.wellFormed.nextTimer_eq_some found
  have inRange := consistent.created_of_active active
  have coherent := consistent.coherent timer inRange
  have otherwise :
      ∀ other ≠ timer, some timer = some other ↔ none = some other := by
    intro other different
    simp [different.symm]
  apply consistent.of_changes _ inRange
    (consistent.wellFormed.fire active) _ otherwise
  · refine ⟨rfl, fun _ _ => rfl, ?_, ?_⟩
    · intro other different
      exact Loop.fire_handles_of_ne different
    · intro other queued
      exact Loop.fire_handleQueue eventLoop.uvLoop timer ▸ queued
  · cases type : (eventLoop.timers timer).type with
    | oneTime =>
        rw [Loop.fire_handles_of_once (coherent.fires_once type)]
        exact
          { coherent with
            resting := fun _ _ => ⟨type, rfl⟩
            idle := fun _ _ => rfl }
    | repeated =>
        have repeats : (eventLoop.uvLoop.handles timer).repeatTime ≠ 0 := by
          rw [coherent.repeats type]
          decide
        rw [Loop.fire_handles_of_repeated repeats]
        exact
          { coherent with
            resting := fun inactive _ => by cases inactive
            idle := fun _ once => by
              rw [type] at once
              cases once }

/-- `uvTimerCallback` closes a timer that fires once. -/
theorem Consistent.afterCallback_run
    (consistent : eventLoop.Consistent (some timer) taken)
    (inRange : timer < eventLoop.created) :
    ∃ next,
      UvTimer.afterCallback timer eventLoop = (.ok ⟨⟩, next) ∧
        next.Consistent none taken ∧
        (next = eventLoop ∧ (eventLoop.timers timer).type = .repeated ∨
          next = eventLoop.closing timer ∧
            (eventLoop.timers timer).type = .oneTime) := by
  have otherwise :
      ∀ other ≠ timer, none = some other ↔ some timer = some other := by
    intro other different
    simp [different.symm]
  cases type : (eventLoop.timers timer).type with
  | oneTime =>
      refine
        ⟨eventLoop.closing timer, ?_,
          consistent.closing inRange otherwise (fun none => by cases none),
          .inr ⟨rfl, rfl⟩⟩
      rw [UvTimer.afterCallback, Throwing.bind_of_ok (Throwing.get_run _),
        if_pos type]
      exact consistent.close_run inRange
  | repeated =>
      have coherent := consistent.coherent timer inRange
      refine ⟨eventLoop, ?_, ?_, .inl ⟨rfl, rfl⟩⟩
      · simp [UvTimer.afterCallback, type]
      · apply consistent.of_changes _ inRange consistent.wellFormed _
          otherwise
        · exact ⟨rfl, fun _ _ => rfl, fun _ _ => rfl, List.Subset.refl _⟩
        · refine
            { coherent with
              resting := ?_
              idle := fun none => by cases none }
          intro inactive isOpen
          have resting := (coherent.resting inactive isOpen).1
          rw [type] at resting
          cases resting

/-- What the close callback leaves of an event loop. -/
def closedTimer (eventLoop : UvEventLoop) (timer : Nat) : UvEventLoop where
  uvLoop := eventLoop.uvLoop.leaveClosing timer
  timers :=
    Function.update eventLoop.timers timer
      { eventLoop.timers timer with closed := true, self := false }
  created := eventLoop.created

theorem closedTimer_timers (eventLoop : UvEventLoop) (timer : Nat) :
    (eventLoop.closedTimer timer).timers =
      Function.update eventLoop.timers timer
        { eventLoop.timers timer with closed := true, self := false } :=
  rfl

theorem closedTimer_handles (eventLoop : UvEventLoop) (timer : Nat) :
    (eventLoop.closedTimer timer).uvLoop.handles =
      Function.update eventLoop.uvLoop.handles timer
        { eventLoop.uvLoop.handles timer with closed := true } :=
  rfl

theorem Consistent.finishClose_run
    (consistent : eventLoop.Consistent none (timer :: taken)) :
    finishClose timer eventLoop = (.ok ⟨⟩, eventLoop.closedTimer timer) ∧
      (eventLoop.closedTimer timer).Consistent none taken := by
  have waiting :
      timer ∈ eventLoop.uvLoop.closingHandles ++ timer :: taken := by simp
  have closing :=
    ((consistent.wellFormed.tracked timer).waiting.mp waiting).1
  have inRange := consistent.created_of_closing closing
  have coherent := consistent.coherent timer inRange
  have closeCb := coherent.closeCb closing
  constructor
  · simp [finishClose, UvTimer.callAsserting, UvTimer.call,
      UvTimer.uvCloseCallback, UvTimer.write, closedTimer, closeCb,
      consistent.wellFormed.finishClose_taken]
  · have wellFormed :
        (eventLoop.closedTimer timer).uvLoop.WellFormed taken :=
      consistent.wellFormed.leaveClosing
    apply consistent.of_changes _ inRange wellFormed _
      fun _ _ => Iff.rfl
    · refine ⟨rfl, ?_, ?_, fun _ queued => List.mem_of_mem_erase queued⟩
      · intro other different
        exact Function.update_of_ne different _ _
      · intro other different
        exact Function.update_of_ne different _ _
    · rw [closedTimer_timers, closedTimer_handles, Function.update_self,
        Function.update_self]
      exact
        { coherent with
          self := rfl
          closed := rfl
          resting := fun _ isOpen => by
            rw [closing] at isOpen
            cases isOpen }

/-- When no callback is running and the loop is not alive, all handles are
closed. -/
theorem Consistent.closed_at_rest
    (consistent : eventLoop.Consistent none [])
    (rests : eventLoop.uvLoop.alive = false)
    (inRange : timer < eventLoop.created) :
    (eventLoop.uvLoop.handles timer).closed = true := by
  have coherent := consistent.coherent timer inRange
  obtain ⟨inactive, closes⟩ :=
    consistent.wellFormed.at_rest rests timer
  apply closes
  by_contra isOpen
  rw [Bool.not_eq_true] at isOpen
  cases (coherent.resting inactive isOpen).2

theorem Consistent.destroy_run
    (consistent : eventLoop.Consistent none [])
    (rests : eventLoop.uvLoop.alive = false) :
    destroy eventLoop = (.ok ⟨⟩, eventLoop) := by
  have closes : eventLoop.uvLoop.loopClose = 0 := by
    apply consistent.wellFormed.loopClose_of_closed
    intro timer queued
    exact consistent.closed_at_rest rests (consistent.queued timer queued)
  simp [destroy, check, closes]

end UvEventLoop

end DkPull.Event
