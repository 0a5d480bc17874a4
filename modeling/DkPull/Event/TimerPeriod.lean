import DkPull.Event.TimerFiring
import Mathlib.Data.List.Chain

/-!
# The period of a timer

The first call of a timer's callback respects the delay of the timer.  After
that a timer that repeats is armed again for the next millisecond, so its
period is one millisecond whatever its delay is.
-/

namespace DkPull.Event

open DkPull.Libuv
open DkPull.Reactive

def lastTime : UInt64 :=
  milliseconds (-1)

theorem milliseconds_le_lastTime (hrtime : UInt64) :
    milliseconds hrtime ≤ lastTime := by
  have bound := hrtime.toNat_lt
  rw [UInt64.le_iff_toNat_le]
  simp only [milliseconds, lastTime, UInt64.toNat_div]
  exact Nat.div_le_div_right (Nat.le_of_lt_succ bound)

/-- A timeout that is reached by a loop time lies the given number of
milliseconds behind the time at which it was set. -/
theorem le_of_clampedTimeout_le
    {time timeout later : UInt64}
    (reached : Loop.clampedTimeout time timeout ≤ later)
    (possible : later ≤ lastTime) :
    time.toNat + timeout.toNat ≤ later.toNat := by
  have timeBound := time.toNat_lt
  have timeoutBound := timeout.toNat_lt
  have lastBound : later.toNat ≤ 18446744073709 :=
    UInt64.le_iff_toNat_le.mp possible
  have sum := UInt64.toNat_add time timeout
  unfold Loop.clampedTimeout at reached
  simp only at reached
  split at reached
  · have all : 18446744073709551615 ≤ later.toNat :=
      UInt64.le_iff_toNat_le.mp reached
    omega
  · rename_i fits
    rw [UInt64.lt_iff_toNat_lt] at fits
    rw [UInt64.le_iff_toNat_le] at reached
    omega

/-- The first call of a timer's callback comes no sooner than its delay after
its creation, and no two calls in a row are closer together. -/
def HonoursPeriod
    (timer : Nat) (delay : UInt64) (outputs : List TimerOutput) : Prop :=
  (∀ start first,
      .created timer start ∈ outputs →
      (invocations timer outputs).head? = some first →
        start.toNat + delay.toNat ≤ first.toNat) ∧
    (invocations timer outputs).IsChain fun earlier later =>
      earlier.toNat + delay.toNat ≤ later.toNat

namespace Running

variable {state next : Running} {event : TimerEvent}
  {emitted : List TimerOutput} {timer : Nat}

/-- A handle is armed for a time when it cannot fire before. -/
def ArmedFor (handle : Handle) (time : Nat) : Prop :=
  handle.active = true →
    ∀ later ≤ lastTime, handle.timeout ≤ later → time ≤ later.toNat

/-- The times at which a timer was called in the past, and the times for which
it is armed. -/
structure Paced
    (outputs : List TimerOutput) (state : Running) (timer : Nat) :
    Prop where
  chain :
    (invocations timer outputs).IsChain fun earlier later =>
      earlier.toNat + 1 ≤ later.toNat
  delayed :
    ∀ start, .created timer start ∈ outputs →
      ∀ time ∈ invocations timer outputs,
        start.toNat + (state.self.timers timer).delay.toNat ≤ time.toNat
  armed :
    ∀ start, .created timer start ∈ outputs →
      ArmedFor (state.self.uvLoop.handles timer)
        (start.toNat + (state.self.timers timer).delay.toNat)
  rearmed :
    ∀ last, (invocations timer outputs).getLast? = some last →
      ArmedFor (state.self.uvLoop.handles timer) (last.toNat + 1)
  named : ∃ start, .created timer start ∈ outputs
  bounded : ∀ time ∈ invocations timer outputs, time ≤ lastTime

private theorem ArmedFor.of_keeps
    {time : Nat}
    (armed : ArmedFor (state.self.uvLoop.handles timer) time)
    (keeps : Keeps state next timer) :
    ArmedFor (next.self.uvLoop.handles timer) time := by
  intro active later possible reached
  rw [keeps.timeout] at reached
  exact armed (keeps.active active) later possible reached

private theorem ArmedFor.of_clampedTimeout
    {handle : Handle} {time timeout : UInt64} {moment : Nat}
    (set : handle.timeout = Loop.clampedTimeout time timeout)
    (enough : moment ≤ time.toNat + timeout.toNat) :
    ArmedFor handle moment := by
  intro _ later possible reached
  rw [set] at reached
  exact
    Nat.le_trans enough (le_of_clampedTimeout_le reached possible)

private theorem Advances.time_le
    (advances : state.Advances event next emitted)
    (bounded : state.self.uvLoop.time ≤ lastTime) :
    next.self.uvLoop.time ≤ lastTime := by
  cases advances with
  | quiet _ _ _ _ _ _ time =>
      rcases time with same | ⟨hrtime, read⟩
      · rw [same]
        exact bounded
      · rw [read]
        exact milliseconds_le_lastTime hrtime
  | created =>
      exact bounded
  | stopped other =>
      simpa using bounded
  | expired other =>
      simpa using bounded
  | invoked other =>
      simpa using bounded
  | _ => exact bounded

private theorem Keeps.delay
    (keeps : Keeps state next timer) :
    (next.self.timers timer).delay = (state.self.timers timer).delay :=
  congrArg TimerOptions.delay keeps.options

private theorem Advances.not_created_of_existed
    (advances : state.Advances event next emitted)
    (inRange : timer < state.self.created) (time : UInt64) :
    .created timer time ∉ emitted := by
  cases advances with
  | created options => simp [Nat.ne_of_lt inRange]
  | _ => simp

private theorem Paced.of_keeps
    {outputs : List TimerOutput}
    (paced : Paced outputs state timer)
    (keeps : Keeps state next timer)
    (silent : invocations timer emitted = [])
    (unnamed : ∀ time, .created timer time ∉ emitted) :
    Paced (outputs ++ emitted) next timer := by
  have same :
      invocations timer (outputs ++ emitted) =
        invocations timer outputs := by
    rw [invocations_append, silent, List.append_nil]
  have earlier :
      ∀ start, .created timer start ∈ outputs ++ emitted →
        .created timer start ∈ outputs := by
    intro start member
    exact (List.mem_append.mp member).resolve_right (unnamed start)
  constructor
  · rw [same]
    exact paced.chain
  · rw [same, keeps.delay]
    intro start member
    exact paced.delayed start (earlier start member)
  · rw [keeps.delay]
    intro start member
    exact (paced.armed start (earlier start member)).of_keeps keeps
  · rw [same]
    intro last isLast
    exact (paced.rearmed last isLast).of_keeps keeps
  · obtain ⟨start, member⟩ := paced.named
    exact ⟨start, List.mem_append_left emitted member⟩
  · rw [same]
    exact paced.bounded

/-- Firing arms a timer again for the next millisecond if it repeats. -/
theorem armedFor_of_fire
    (consistent : state.Consistent)
    (inRange : timer < state.self.created) {moment : Nat}
    (passed : moment ≤ state.self.uvLoop.time.toNat + 1) :
    ArmedFor ((state.self.uvLoop.fire timer).handles timer) moment := by
  have coherent := consistent.coherent timer inRange
  cases type : (state.self.timers timer).type with
  | oneTime =>
      rw [Loop.fire_handles_of_once (coherent.fires_once type)]
      intro active
      cases active
  | repeated =>
      have repeatTime := coherent.repeats type
      have repeats : (state.self.uvLoop.handles timer).repeatTime ≠ 0 := by
        rw [repeatTime]
        decide
      rw [Loop.fire_handles_of_repeated repeats, repeatTime]
      exact ArmedFor.of_clampedTimeout rfl passed

/-- A timer fires no sooner than it is armed for. -/
theorem Paced.of_fire
    {outputs : List TimerOutput}
    (paced : Paced outputs state timer)
    (consistent : state.Consistent)
    (inRange : timer < state.self.created)
    (bounded : state.self.uvLoop.time ≤ lastTime)
    (active : (state.self.uvLoop.handles timer).active = true)
    (due :
      (state.self.uvLoop.handles timer).timeout ≤ state.self.uvLoop.time)
    (calls :
      next.self =
        { state.self with uvLoop := state.self.uvLoop.fire timer }) :
    Paced (outputs ++ [.invoked timer state.self.uvLoop.time]) next
      timer := by
  have grown :
      invocations timer
          (outputs ++ [.invoked timer state.self.uvLoop.time]) =
        invocations timer outputs ++ [state.self.uvLoop.time] := by
    rw [invocations_append]
    simp [invocations]
  have earlier :
      ∀ start,
        .created timer start ∈
            outputs ++ [.invoked timer state.self.uvLoop.time] →
          .created timer start ∈ outputs := by
    simp
  constructor
  · rw [grown, List.isChain_append]
    refine ⟨paced.chain, List.isChain_singleton _, ?_⟩
    intro last isLast now isNow
    cases isNow
    exact paced.rearmed last isLast active _ bounded due
  · rw [grown, calls]
    intro start member time called
    rcases List.mem_append.mp called with before | now
    · exact paced.delayed start (earlier start member) time before
    · rw [List.mem_singleton.mp now]
      exact
        paced.armed start (earlier start member) active _ bounded due
  · rw [calls]
    intro start member
    apply armedFor_of_fire consistent inRange
    apply Nat.le_succ_of_le
    exact paced.armed start (earlier start member) active _ bounded due
  · rw [grown, calls]
    intro last isLast
    rw [List.getLast?_concat] at isLast
    cases isLast
    exact armedFor_of_fire consistent inRange (Nat.le_refl _)
  · obtain ⟨start, member⟩ := paced.named
    exact ⟨start, List.mem_append_left _ member⟩
  · rw [grown]
    intro time called
    rcases List.mem_append.mp called with before | now
    · exact paced.bounded time before
    · rw [List.mem_singleton.mp now]
      exact bounded

private theorem Paced.of_created
    {outputs : List TimerOutput} {options : TimerOptions}
    (recorded :
      ∀ time, .created state.self.created time ∉ outputs)
    (fired : invocations state.self.created outputs = [])
    (created : next.self = state.self.withTimer options) :
    Paced
      (outputs ++ [.created state.self.created state.self.uvLoop.time])
      next state.self.created := by
  have silent :
      invocations state.self.created
          (outputs ++
            [.created state.self.created state.self.uvLoop.time]) =
        [] := by
    rw [invocations_append, fired]
    rfl
  constructor
  · rw [silent]
    exact List.isChain_nil
  · rw [silent]
    intro _ _ time called
    exact absurd called List.not_mem_nil
  · intro start member
    have now :
        start = state.self.uvLoop.time := by
      rcases List.mem_append.mp member with before | now
      · exact absurd before (recorded start)
      · cases List.mem_singleton.mp now
        rfl
    rw [created, UvEventLoop.withTimer_handles,
      UvEventLoop.withTimer_timers, Function.update_self,
      Function.update_self, now]
    exact ArmedFor.of_clampedTimeout rfl (Nat.le_refl _)
  · rw [silent]
    intro last isLast
    cases isLast
  · exact ⟨state.self.uvLoop.time, by simp⟩
  · rw [silent]
    intro time called
    exact absurd called List.not_mem_nil

/-- The past calls of all timers are paced. -/
structure Timed (outputs : List TimerOutput) (state : Running) :
    Prop where
  bounded : state.self.uvLoop.time ≤ lastTime
  paced : ∀ timer < state.self.created, Paced outputs state timer

theorem Timed.of_advances
    {events : List TimerEvent} {outputs : List TimerOutput}
    (timed : Timed outputs state)
    (recorded : Recorded events outputs state)
    (fired : Fired outputs state)
    (consistent : state.Consistent)
    (advances : state.Advances event next emitted) :
    Timed (outputs ++ emitted) next := by
  refine ⟨advances.time_le timed.bounded, ?_⟩
  intro timer inRange
  rcases advances.existed_or_created inRange with
    existed | ⟨options, rfl, -, rfl, created⟩
  · have before := timed.paced timer existed
    rcases advances.keeps_or_invokes consistent existed with
      ⟨silent, keeps⟩ | ⟨rfl, active, due, calls⟩
    · exact
        before.of_keeps keeps silent
          (advances.not_created_of_existed existed)
    · exact
        before.of_fire consistent existed timed.bounded active due calls
  · apply Paced.of_created _ (fired.fresh _ (Nat.le_refl _)) created
    intro time named
    exact Nat.lt_irrefl _ (recorded.named _ time named)

theorem timed_of_unfailed
    {hrtime : UInt64} {events : List TimerEvent}
    {outputs : List TimerOutput}
    (ran :
      timerMachine.run (Running.init hrtime) events =
        some (state, outputs))
    (unfailed : Unfailed outputs) : Timed outputs state := by
  have all :
      Recorded events outputs state ∧ Fired outputs state ∧
        Timed outputs state := by
    refine
      history_of_advances
        (fun events outputs state =>
          Recorded events outputs state ∧ Fired outputs state ∧
            Timed outputs state)
        ?_ ?_ ran unfailed
    · have start : timerMachine.run (Running.init hrtime) [] =
          some (Running.init hrtime, []) := rfl
      have nothing : Unfailed [] := by simp [Unfailed]
      refine
        ⟨recorded_of_unfailed start nothing,
          fired_of_unfailed start nothing,
          milliseconds_le_lastTime hrtime, ?_⟩
      intro timer created
      exact absurd created (Nat.not_lt_zero timer)
    · rintro _ _ _ _ _ _ consistent ⟨recorded, fired, timed⟩ advances
      exact
        ⟨recorded.of_advances advances, fired.of_advances consistent advances,
          timed.of_advances recorded fired consistent advances⟩
  exact all.2.2

private theorem Paced.first
    {outputs : List TimerOutput} (paced : Paced outputs state timer)
    {start first : UInt64}
    (created : .created timer start ∈ outputs)
    (isFirst : (invocations timer outputs).head? = some first) :
    start.toNat + (state.self.timers timer).delay.toNat ≤ first.toNat :=
  paced.delayed start created first (List.mem_of_head? isFirst)

/-- The period is honoured if it is one millisecond, or so long that the timer
cannot fire twice. -/
theorem Paced.honoursPeriod
    {outputs : List TimerOutput} (paced : Paced outputs state timer)
    (short :
      (state.self.timers timer).delay = 1 ∨
        lastTime ≤ (state.self.timers timer).delay) :
    HonoursPeriod timer (state.self.timers timer).delay outputs := by
  refine ⟨fun start first => paced.first, ?_⟩
  rcases short with one | long
  · rw [one]
    exact paced.chain
  · apply paced.chain.imp_of_mem_imp
    intro earlier later earlierCalled laterCalled apart
    obtain ⟨start, created⟩ := paced.named
    have late := paced.delayed start created earlier earlierCalled
    have possible :=
      UInt64.le_iff_toNat_le.mp (paced.bounded later laterCalled)
    have never := UInt64.le_iff_toNat_le.mp long
    omega

private theorem Refused.honoursPeriod
    {outputs : List TimerOutput} {delay : UInt64}
    (refused : state.Refused event emitted)
    (honours : HonoursPeriod timer delay outputs) :
    HonoursPeriod timer delay (outputs ++ emitted) := by
  unfold HonoursPeriod
  rw [invocations_append, refused.invocations_eq_nil, List.append_nil]
  refine ⟨?_, honours.2⟩
  intro start first created isFirst
  refine honours.1 start first ?_ isFirst
  obtain ⟨failure, rfl⟩ := refused.fails
  simpa using created

private theorem honoursPeriod_of_unfailed
    {hrtime : UInt64} {events : List TimerEvent}
    {outputs : List TimerOutput}
    (ran :
      timerMachine.run (Running.init hrtime) events =
        some (state, outputs))
    (unfailed : Unfailed outputs) {delay : UInt64}
    (short : delay = 1 ∨ lastTime ≤ delay)
    (created :
      ∀ options, (creations events)[timer]? = some options →
        options.delay = delay) :
    HonoursPeriod timer delay outputs := by
  have timed := timed_of_unfailed ran unfailed
  have recorded := recorded_of_unfailed ran unfailed
  by_cases inRange : timer < state.self.created
  · have same := created _ (recorded.options timer inRange)
    have honours := (timed.paced timer inRange).honoursPeriod
    rw [show (state.self.timers timer).delay = delay from same] at honours
    exact honours short
  · have silent :=
      (fired_of_unfailed ran unfailed).fresh timer
        (Nat.not_lt.mp inRange)
    unfold HonoursPeriod
    rw [silent]
    refine ⟨?_, List.isChain_nil⟩
    intro start first _ none
    cases none

private theorem honoursPeriod_of_run
    {hrtime : UInt64} {events : List TimerEvent}
    {outputs : List TimerOutput}
    (ran :
      timerMachine.run (Running.init hrtime) events =
        some (state, outputs))
    {delay : UInt64} (short : delay = 1 ∨ lastTime ≤ delay)
    (created :
      ∀ options, (creations events)[timer]? = some options →
        options.delay = delay) :
    HonoursPeriod timer delay outputs := by
  rcases unfailed_or_refused ran with
    ⟨-, unfailed⟩ |
      ⟨-, history, event, middle, early, emitted, rfl, rfl, front, -,
        unfailed, refused⟩
  · exact honoursPeriod_of_unfailed ran unfailed short created
  · apply refused.honoursPeriod
    apply honoursPeriod_of_unfailed front unfailed short
    intro options before
    exact created options (creations_append_left before [event])

/-! ## Periods that are not -/

/-- A timer fires as soon as it is due, and once more as soon as it is due
again. -/
def firesTwice (first second delay : UInt64) : List TimerEvent :=
  [.create (UvEventLoop.intervalOptions delay true), .run, .proceed,
    .clock first, .proceed, .returned, .proceed, .clock second, .proceed,
    .clock second, .proceed]

/-- The second call comes one millisecond after the first. -/
theorem firesTwice_run
    {first second delay : UInt64}
    (isFirst : milliseconds first = delay)
    (isSecond : milliseconds second = delay + 1)
    (fits : delay < delay + 1) (positive : 1 ≤ delay + 1) :
    ∃ state,
      timerMachine.run (Running.init 0) (firesTwice first second delay) =
        some
          (state,
            [.created 0 0, .invoked 0 delay, .invoked 0 (delay + 1)]) := by
  have atOnce : delay ≤ delay + 1 := UInt64.le_of_lt fits
  have initially : milliseconds 0 = 0 := rfl
  have armed : Loop.clampedTimeout 0 delay = delay := by
    simp [Loop.clampedTimeout]
  have rearmed : Loop.clampedTimeout delay 1 = delay + 1 := by
    simp [Loop.clampedTimeout, UInt64.not_lt.mpr positive]
  have outputs :
      (timerMachine.run (Running.init 0)
          (firesTwice first second delay)).map Prod.snd =
        some
          [.created 0 0, .invoked 0 delay, .invoked 0 (delay + 1)] := by
    simp [firesTwice, Machine.run, timerMachine, init, userRuns, perform,
      readClock, proceed, UvEventLoop.init, UvEventLoop.createTimer_run,
      UvEventLoop.intervalOptions, UvEventLoop.withTimer,
      UvTimer.afterCallback, TimerType.repeatTime, Loop.init, Loop.alive,
      Loop.update, Loop.updateTime, Loop.timerInit, Loop.timerStop,
      Loop.timerStart, Loop.timerAgain, Loop.activate, Loop.nextTimer,
      Loop.heapMin, Handle.initialised, Handle.isClosing, isFirst, isSecond,
      initially, armed, rearmed, fits, atOnce]
  obtain ⟨⟨state, _⟩, ran, rfl⟩ := Option.map_eq_some_iff.mp outputs
  exact ⟨state, ran⟩

theorem exists_milliseconds_eq
    {time : UInt64} (possible : time ≤ lastTime) :
    ∃ hrtime, milliseconds hrtime = time := by
  have bound : time.toNat ≤ 18446744073709 :=
    UInt64.le_iff_toNat_le.mp possible
  refine ⟨time * 1000000, ?_⟩
  rw [← UInt64.toNat_inj, milliseconds, UInt64.toNat_div,
    UInt64.toNat_mul]
  simp only [UInt64.reduceToNat]
  rw [Nat.mod_eq_of_lt (by omega)]
  exact Nat.mul_div_cancel _ (by decide)

/-- A timer that repeats and whose delay is longer than one millisecond can
fire twice within its delay. -/
theorem not_honoursPeriod
    {delay : UInt64} (longer : 1 < delay) (short : delay < lastTime) :
    ∃ events state outputs,
      timerMachine.run (Running.init 0) events = some (state, outputs) ∧
        (creations events)[0]? =
          some (UvEventLoop.intervalOptions delay true) ∧
        ¬ HonoursPeriod 0 delay outputs := by
  have shortNat : delay.toNat < 18446744073709 :=
    UInt64.lt_iff_toNat_lt.mp short
  have longerNat : 1 < delay.toNat := UInt64.lt_iff_toNat_lt.mp longer
  have next : (delay + 1).toNat = delay.toNat + 1 := by
    rw [UInt64.toNat_add]
    simp only [UInt64.toNat_one]
    omega
  have possible : delay + 1 ≤ lastTime := by
    rw [UInt64.le_iff_toNat_le, next]
    exact shortNat
  have fits : delay < delay + 1 := by
    rw [UInt64.lt_iff_toNat_lt, next]
    exact Nat.lt_succ_self _
  have positive : 1 ≤ delay + 1 := by
    rw [UInt64.le_iff_toNat_le, next]
    exact Nat.succ_le_succ (Nat.zero_le _)
  obtain ⟨first, isFirst⟩ :=
    exists_milliseconds_eq (UInt64.le_of_lt short)
  obtain ⟨second, isSecond⟩ := exists_milliseconds_eq possible
  obtain ⟨state, ran⟩ := firesTwice_run isFirst isSecond fits positive
  refine ⟨_, state, _, ran, rfl, ?_⟩
  intro honours
  have apart := honours.2
  simp [invocations, next] at apart
  omega

/-- An interval of one second is called twice within two milliseconds. -/
theorem not_honoursPeriod_second :
    ∃ state outputs,
      timerMachine.run (Running.init 0)
          (firesTwice 1000000000 1001000000 1000) =
        some (state, outputs) ∧
      (creations (firesTwice 1000000000 1001000000 1000))[0]? =
        some (UvEventLoop.intervalOptions 1000 true) ∧
      ¬ HonoursPeriod 0 1000 outputs := by
  obtain ⟨state, ran⟩ :=
    @firesTwice_run 1000000000 1001000000 1000 rfl rfl
      (by decide) (by decide)
  refine ⟨state, _, ran, rfl, ?_⟩
  intro honours
  exact absurd honours.2 (by decide)

/-- A timer that repeats honours its delay as its period in every run if and
only if this is one millisecond or so long that it cannot fire twice. -/
theorem interval_honoursPeriod_iff
    (delay : UInt64) (positive : 1 ≤ delay) :
    (∀ hrtime events state outputs timer options,
        timerMachine.run (Running.init hrtime) events =
          some (state, outputs) →
        (creations events)[timer]? = some options →
        options.type = .repeated → options.delay = delay →
          HonoursPeriod timer delay outputs) ↔
      delay = 1 ∨ lastTime ≤ delay := by
  constructor
  · intro honours
    by_contra neither
    obtain ⟨notOne, short⟩ := not_or.mp neither
    have longer : 1 < delay := by
      rw [UInt64.lt_iff_toNat_lt]
      rw [UInt64.le_iff_toNat_le] at positive
      rw [← UInt64.toNat_inj] at notOne
      omega
    obtain ⟨events, state, outputs, ran, created, violated⟩ :=
      not_honoursPeriod longer (UInt64.not_le.mp short)
    exact violated (honours 0 events state outputs 0 _ ran created rfl rfl)
  · intro short hrtime events state outputs timer options ran created _
      sameDelay
    apply honoursPeriod_of_run ran short
    intro other same
    rw [created] at same
    cases same
    exact sameDelay

/-- An interval of one millisecond is honoured where a longer one is not. -/
theorem interval_honoursPeriod_millisecond :
    HonoursPeriod 0 1 [.created 0 0, .invoked 0 1, .invoked 0 2] := by
  obtain ⟨state, ran⟩ :=
    @firesTwice_run 1000000 2000000 1 rfl rfl (by decide) (by decide)
  have honours :=
    (interval_honoursPeriod_iff 1 (by decide)).mpr (.inl rfl)
  exact
    honours 0 _ state _ 0 (UvEventLoop.intervalOptions 1 true) ran
      rfl rfl rfl

end Running

end DkPull.Event
