import DkPull.Event.TimerLifecycle

/-!
# When timers fire

A timer does not fire any more once it is stopped.  A timer that fires once
does so unless it is stopped before, and at most once.
-/

namespace DkPull.Event

open DkPull.Libuv
open DkPull.Reactive

def invocations (timer : Nat) (outputs : List TimerOutput) :
    List UInt64 :=
  outputs.filterMap fun
    | .invoked other time => if other = timer then some time else none
    | _ => none

@[simp]
theorem invocations_append
    (timer : Nat) (early late : List TimerOutput) :
    invocations timer (early ++ late) =
      invocations timer early ++ invocations timer late :=
  List.filterMap_append

namespace Running

variable {state next : Running} {event : TimerEvent}
  {emitted : List TimerOutput} {timer : Nat}

/-- A step that does not call the callback of a timer can deactivate it only
by stopping it. -/
structure Keeps (state next : Running) (timer : Nat) : Prop where
  options :
    (next.self.timers timer).options = (state.self.timers timer).options
  stopped :
    (state.self.timers timer).stopped = true →
      (next.self.timers timer).stopped = true
  active :
    (next.self.uvLoop.handles timer).active = true →
      (state.self.uvLoop.handles timer).active = true
  timeout :
    (next.self.uvLoop.handles timer).timeout =
      (state.self.uvLoop.handles timer).timeout
  inactive :
    (next.self.uvLoop.handles timer).active = false →
      (next.self.timers timer).stopped = false →
        (state.self.uvLoop.handles timer).active = false
  closing :
    (state.self.uvLoop.handles timer).closing = true →
      (next.self.uvLoop.handles timer).closing = true

private theorem Keeps.of_same
    (timers : next.self.timers timer = state.self.timers timer)
    (handles :
      next.self.uvLoop.handles timer = state.self.uvLoop.handles timer) :
    Keeps state next timer := by
  constructor <;> simp +contextual [timers, handles]

private theorem Keeps.of_closing
    (timers :
      (next.self.timers timer).options = (state.self.timers timer).options)
    (stopped :
      (state.self.timers timer).stopped = true →
        (next.self.timers timer).stopped = true)
    (handles :
      next.self.uvLoop.handles timer =
        (state.self.closing timer).uvLoop.handles timer)
    (harmless :
      (next.self.timers timer).stopped = false →
        (state.self.uvLoop.handles timer).active = false) :
    Keeps state next timer := by
  rw [UvEventLoop.closing_handles_self] at handles
  constructor
  · exact timers
  · exact stopped
  · rw [handles]
    split
    · exact id
    · intro active
      cases active
  · rw [handles]
    split <;> rfl
  · intro _ unstopped
    exact harmless unstopped
  · rw [handles]
    split
    · exact id
    · exact fun _ => rfl

/-- A step either keeps a timer or calls its callback. -/
theorem Advances.keeps_or_invokes
    (advances : state.Advances event next emitted)
    (consistent : state.Consistent)
    (inRange : timer < state.self.created) :
    (invocations timer emitted = [] ∧ Keeps state next timer) ∨
      (emitted = [.invoked timer state.self.uvLoop.time] ∧
        (state.self.uvLoop.handles timer).active = true ∧
        (state.self.uvLoop.handles timer).timeout ≤
          state.self.uvLoop.time ∧
        next.self =
          { state.self with
            uvLoop := state.self.uvLoop.fire timer }) := by
  cases advances with
  | created options =>
      have old : timer ≠ state.self.created := Nat.ne_of_lt inRange
      refine .inl ⟨rfl, Keeps.of_same ?_ ?_⟩
      · rw [UvEventLoop.withTimer_timers, Function.update_of_ne old]
      · rw [UvEventLoop.withTimer_handles, Function.update_of_ne old]
  | stopped other =>
      refine .inl ⟨rfl, ?_⟩
      by_cases same : timer = other
      · subst same
        apply Keeps.of_closing <;>
          simp [UvEventLoop.stopping_timers, UvTimer.options]
      · apply Keeps.of_same
        · rw [UvEventLoop.stopping_timers, Function.update_of_ne same]
        · exact UvEventLoop.closing_handles_of_ne same
  | quiet _ _ _ timers _ handles =>
      exact .inl ⟨rfl, Keeps.of_same (by rw [timers]) (by rw [handles])⟩
  | invoked other last active due =>
      by_cases same : other = timer
      · subst same
        exact .inr ⟨rfl, active, due, rfl⟩
      · refine .inl ⟨by simp [invocations, same], Keeps.of_same rfl ?_⟩
        exact Loop.fire_handles_of_ne (Ne.symm same)
  | expired other last running once =>
      refine .inl ⟨rfl, ?_⟩
      by_cases same : timer = other
      · subst same
        have isCurrent : state.position.current = some timer := by
          rw [running]
          rfl
        have inactive :=
          (consistent.coherent timer inRange).idle isCurrent once
        apply Keeps.of_closing <;> simp [inactive]
      · apply Keeps.of_same
        · simp
        · exact UvEventLoop.closing_handles_of_ne same
  | finished other =>
      refine .inl ⟨rfl, ?_⟩
      by_cases same : timer = other
      · subst same
        constructor <;>
          simp +contextual [UvEventLoop.closedTimer_timers,
            UvEventLoop.closedTimer_handles, UvTimer.options]
      · apply Keeps.of_same
        · rw [UvEventLoop.closedTimer_timers,
            Function.update_of_ne same]
        · rw [UvEventLoop.closedTimer_handles,
            Function.update_of_ne same]
  | runReturned => exact .inl ⟨rfl, Keeps.of_same rfl rfl⟩

/-- A timer exists after a step if it existed before or has been created by
the step. -/
theorem Advances.existed_or_created
    (advances : state.Advances event next emitted)
    (inRange : timer < next.self.created) :
    timer < state.self.created ∨
      ∃ options,
        timer = state.self.created ∧
          event = .create options ∧
          emitted = [.created timer state.self.uvLoop.time] ∧
          next.self = state.self.withTimer options := by
  cases advances with
  | created options =>
      have bound : timer < state.self.created + 1 := inRange
      rcases Nat.lt_succ_iff_lt_or_eq.mp bound with old | rfl
      · exact .inl old
      · exact .inr ⟨options, rfl, rfl, rfl, rfl⟩
  | stopped other =>
      rw [UvEventLoop.stopping_created] at inRange
      exact .inl inRange
  | quiet _ _ _ _ created =>
      rw [created] at inRange
      exact .inl inRange
  | expired other =>
      rw [UvEventLoop.closing_created] at inRange
      exact .inl inRange
  | _ => exact .inl inRange

private theorem Advances.invocations_of_fresh
    (advances : state.Advances event next emitted)
    (consistent : state.Consistent)
    (fresh : state.self.created ≤ timer) :
    invocations timer emitted = [] := by
  cases advances with
  | invoked other _ active =>
      have old := consistent.created_of_active active
      have different : other ≠ timer :=
        Nat.ne_of_lt (Nat.lt_of_lt_of_le old fresh)
      simp [invocations, different]
  | _ => rfl

theorem Advances.created_le
    (advances : state.Advances event next emitted) :
    state.self.created ≤ next.self.created := by
  cases advances with
  | created => exact Nat.le_succ _
  | quiet _ _ _ _ created => exact Nat.le_of_eq created.symm
  | _ => simp [UvEventLoop.closedTimer]

structure FiredOnce
    (timer : UvTimer) (handle : Handle) (times : List UInt64) : Prop where
  atMost : times.length ≤ 1
  notYet : handle.active = true → times.length = 0
  already :
    handle.active = false → timer.stopped = false → times.length = 1

/-- The calls of callbacks in the past agree with the state. -/
structure Fired (outputs : List TimerOutput) (state : Running) : Prop where
  fresh :
    ∀ timer, state.self.created ≤ timer → invocations timer outputs = []
  once :
    ∀ timer < state.self.created,
      (state.self.timers timer).type = .oneTime →
        FiredOnce (state.self.timers timer)
          (state.self.uvLoop.handles timer) (invocations timer outputs)

private theorem Keeps.type
    (keeps : Keeps state next timer) :
    (next.self.timers timer).type = (state.self.timers timer).type :=
  congrArg TimerOptions.type keeps.options

theorem Fired.of_advances
    {outputs : List TimerOutput}
    (fired : Fired outputs state)
    (consistent : state.Consistent)
    (advances : state.Advances event next emitted) :
    Fired (outputs ++ emitted) next := by
  constructor
  · intro timer fresh
    have before := Nat.le_trans advances.created_le fresh
    rw [invocations_append, fired.fresh timer before,
      advances.invocations_of_fresh consistent before]
    rfl
  · intro timer inRange once
    rcases advances.existed_or_created inRange with
      existed | ⟨options, rfl, -, rfl, created⟩
    · rcases advances.keeps_or_invokes consistent existed with
        ⟨none, keeps⟩ | ⟨rfl, active, -, calls⟩
      · rw [keeps.type] at once
        have before := fired.once timer existed once
        rw [invocations_append, none, List.append_nil]
        refine ⟨before.atMost, ?_, ?_⟩
        · intro active
          exact before.notYet (keeps.active active)
        · intro inactive unstopped
          apply before.already (keeps.inactive inactive unstopped)
          cases stopped : (state.self.timers timer).stopped with
          | false => rfl
          | true => rw [← unstopped, keeps.stopped stopped]
      · rw [calls] at once ⊢
        have single := (consistent.coherent timer existed).fires_once once
        have notYet := (fired.once timer existed once).notYet active
        have called :
            (invocations timer
              (outputs ++
                [.invoked timer state.self.uvLoop.time])).length = 1 := by
          simp [invocations] at notYet ⊢
          exact notYet
        rw [Loop.fire_handles_of_once single]
        exact
          { atMost := Nat.le_of_eq called
            notYet := fun active => by cases active
            already := fun _ _ => called }
    · rw [created, UvEventLoop.withTimer_handles, Function.update_self,
        invocations_append, fired.fresh _ (Nat.le_refl _)]
      constructor <;> simp [invocations]

theorem fired_of_unfailed
    {hrtime : UInt64} {events : List TimerEvent}
    {outputs : List TimerOutput}
    (ran :
      timerMachine.run (Running.init hrtime) events =
        some (state, outputs))
    (unfailed : Unfailed outputs) : Fired outputs state := by
  refine
    history_of_advances (fun _ outputs state => Fired outputs state)
      ?_ ?_ ran unfailed
  · constructor
    · exact fun _ _ => rfl
    · intro timer created
      exact absurd created (Nat.not_lt_zero timer)
  · intro _ _ _ _ _ _ consistent fired advances
    exact fired.of_advances consistent advances

/-- A timer whose handle is closing does not fire any more. -/
theorem Advances.closing_stays
    (advances : state.Advances event next emitted)
    (consistent : state.Consistent)
    (closing : (state.self.uvLoop.handles timer).closing = true) :
    invocations timer emitted = [] ∧
      (next.self.uvLoop.handles timer).closing = true := by
  have existed := consistent.created_of_closing closing
  rcases advances.keeps_or_invokes consistent existed with
    ⟨none, keeps⟩ | ⟨-, active, -, -⟩
  · exact ⟨none, keeps.closing closing⟩
  · rw [(consistent.wellFormed.tracked timer).inactive_of_closing closing]
      at active
    cases active

theorem Refused.invocations_eq_nil
    (refused : state.Refused event emitted) (timer : Nat) :
    invocations timer emitted = [] := by
  cases refused <;> rfl

private theorem run_of_aborted
    (aborted : state.position = .aborted) {events : List TimerEvent}
    {outputs : List TimerOutput}
    (ran : timerMachine.run state events = some (next, outputs)) :
    outputs = [] := by
  cases events with
  | nil =>
      cases ran
      rfl
  | cons event rest =>
      obtain ⟨_, _, _, stepped, -⟩ := Machine.run_cons_eq_some.mp ran
      rw [step_of_aborted aborted] at stepped
      cases stepped

/-- From a moment on at which its handle is closing, a timer is silent. -/
theorem Consistent.silent_of_closing
    (consistent : state.Consistent)
    (closing : (state.self.uvLoop.handles timer).closing = true)
    {events : List TimerEvent} {outputs : List TimerOutput}
    (ran : timerMachine.run state events = some (next, outputs)) :
    invocations timer outputs = [] := by
  induction events generalizing state outputs with
  | nil =>
      cases ran
      rfl
  | cons event rest inductionHypothesis =>
      obtain ⟨middle, emitted, later, stepped, continued, rfl⟩ :=
        Machine.run_cons_eq_some.mp ran
      rw [invocations_append]
      rcases consistent.advances stepped with
        ⟨advances, agrees⟩ | ⟨refused, aborted⟩
      · obtain ⟨silent, stays⟩ :=
          advances.closing_stays consistent closing
        rw [silent, inductionHypothesis agrees stays continued]
        rfl
      · rw [run_of_aborted aborted continued,
          refused.invocations_eq_nil timer]
        rfl

private theorem silent_after_stop
    {hrtime : UInt64} {before after : List TimerEvent}
    {middle : Running} {early late : List TimerOutput}
    (front :
      timerMachine.run (Running.init hrtime) (before ++ [.stop timer]) =
        some (middle, early))
    (back : timerMachine.run middle after = some (next, late)) :
    invocations timer late = [] := by
  rcases unfailed_or_refused front with
    ⟨consistent, unfailed⟩ | ⟨aborted, -⟩
  · have recorded := recorded_of_unfailed front unfailed
    obtain ⟨inRange, stopped⟩ := (recorded.stopped timer).mp (by simp)
    have closing := (consistent.coherent timer inRange).stopped stopped
    exact consistent.silent_of_closing closing back
  · rw [run_of_aborted aborted back]
    rfl

/-! ## Counting the calls -/

theorem Recorded.created_of_options
    {events : List TimerEvent} {outputs : List TimerOutput}
    (recorded : Recorded events outputs state) {options : TimerOptions}
    (created : (creations events)[timer]? = some options) :
    timer < state.self.created ∧
      (state.self.timers timer).options = options := by
  obtain ⟨inRange, -⟩ := List.getElem?_eq_some_iff.mp created
  rw [recorded.created] at inRange
  rw [recorded.options timer inRange] at created
  exact ⟨inRange, Option.some.inj created⟩

theorem creations_append_left
    {history : List TimerEvent} {options : TimerOptions}
    (created : (creations history)[timer]? = some options)
    (later : List TimerEvent) :
    (creations (history ++ later))[timer]? = some options := by
  obtain ⟨inRange, -⟩ := List.getElem?_eq_some_iff.mp created
  unfold creations at inRange created ⊢
  rw [List.filterMap_append, List.getElem?_append_left inRange]
  exact created

/-- While no check fails, a timer that does not repeat is called at most
once. -/
theorem atMost_of_unfailed
    {hrtime : UInt64} {events : List TimerEvent}
    {outputs : List TimerOutput}
    (ran :
      timerMachine.run (Running.init hrtime) events =
        some (state, outputs))
    (unfailed : Unfailed outputs)
    (once :
      ∀ options, (creations events)[timer]? = some options →
        options.type = .oneTime) :
    (invocations timer outputs).length ≤ 1 := by
  have fired := fired_of_unfailed ran unfailed
  have recorded := recorded_of_unfailed ran unfailed
  by_cases inRange : timer < state.self.created
  · have type := once _ (recorded.options timer inRange)
    exact (fired.once timer inRange type).atMost
  · rw [fired.fresh timer (Nat.not_lt.mp inRange)]
    exact Nat.zero_le 1

private theorem fired_at_most_once
    {hrtime : UInt64} {events : List TimerEvent}
    {outputs : List TimerOutput}
    (ran :
      timerMachine.run (Running.init hrtime) events =
        some (state, outputs))
    (once :
      ∀ options, (creations events)[timer]? = some options →
        options.type = .oneTime) :
    (invocations timer outputs).length ≤ 1 := by
  rcases unfailed_or_refused ran with
    ⟨-, unfailed⟩ |
      ⟨-, history, event, middle, early, emitted, rfl, rfl, front, -,
        unfailed, refused⟩
  · exact atMost_of_unfailed ran unfailed once
  · rw [invocations_append, refused.invocations_eq_nil,
      List.append_nil]
    apply atMost_of_unfailed front unfailed
    intro options created
    exact once options (creations_append_left created [event])

/-- Behind a call of `Stop` a timer does not fire.  A timer that fires once
does so at most once, and when `Run` returns it has fired unless it was
stopped. -/
theorem timer_firing_discipline
    {hrtime : UInt64} {events : List TimerEvent}
    {outputs : List TimerOutput}
    (ran :
      timerMachine.run (Running.init hrtime) events =
        some (state, outputs)) :
    (∀ timer before after middle early late,
        events = before ++ .stop timer :: after →
        timerMachine.run (Running.init hrtime) (before ++ [.stop timer]) =
          some (middle, early) →
        outputs = early ++ late →
          invocations timer late = []) ∧
      (∀ timer options,
        (creations events)[timer]? = some options →
        options.type = .oneTime →
          (invocations timer outputs).length ≤ 1) ∧
      ∀ next,
        timerMachine.step state .proceed = some (next, [.runReturned]) →
          ∀ timer options,
            (creations events)[timer]? = some options →
            options.type = .oneTime →
            .stop timer ∉ events →
              (invocations timer outputs).length = 1 := by
  refine ⟨?_, ?_, ?_⟩
  · intro timer before after middle early late shape front split
    have regroup : events = (before ++ [.stop timer]) ++ after := by
      rw [shape, List.append_assoc]
      rfl
    rw [regroup] at ran
    obtain ⟨middle', early', late', front', back, joined⟩ :=
      Machine.run_append_eq_some.mp ran
    rw [front] at front'
    cases front'
    rw [split] at joined
    rw [List.append_cancel_left joined]
    exact silent_after_stop front back
  · intro timer options created once
    apply fired_at_most_once ran
    intro other same
    rw [created] at same
    cases same
    exact once
  · intro next returned timer options created once unstopped
    rcases unfailed_or_refused ran with
      ⟨consistent, unfailed⟩ | ⟨aborted, -⟩
    · have recorded := recorded_of_unfailed ran unfailed
      have fired := fired_of_unfailed ran unfailed
      obtain ⟨inRange, same⟩ := recorded.created_of_options created
      have type : (state.self.timers timer).type = .oneTime := by
        rw [← once, ← same]
        rfl
      obtain ⟨sameLoop, agrees, rests⟩ :=
        consistent.of_runReturned returned
      have inactive := (agrees.wellFormed.at_rest rests timer).1
      rw [sameLoop] at inactive
      apply (fired.once timer inRange type).already inactive
      rw [← Bool.not_eq_true]
      intro stopped
      exact unstopped ((recorded.stopped timer).mpr ⟨inRange, stopped⟩)
    · rw [step_of_aborted aborted] at returned
      cases returned

/-- Two timers are due at once, and the callback of the first stops the
second. -/
def stoppedByAnother : List TimerEvent :=
  [.create (UvEventLoop.timeoutOptions 1 true),
    .create (UvEventLoop.intervalOptions 1 true), .run, .proceed,
    .clock 1000000, .proceed, .stop 1, .returned, .proceed,
    .clock 1000000, .proceed, .proceed, .proceed, .clock 1000000, .proceed]

private theorem stoppedByAnother_run :
    ∃ state next,
      timerMachine.run (Running.init 0) stoppedByAnother =
          some
            (state,
              [.created 0 0, .created 1 0, .invoked 0 1,
                .stopped true]) ∧
        timerMachine.step state .proceed = some (next, [.runReturned]) :=
  ⟨_, _, rfl, rfl⟩

theorem timer_firing_discipline_stoppedByAnother :
    ∃ state next outputs,
      timerMachine.run (Running.init 0) stoppedByAnother =
          some (state, outputs) ∧
        timerMachine.step state .proceed = some (next, [.runReturned]) ∧
        (invocations 0 outputs).length = 1 := by
  obtain ⟨state, next, ran, returned⟩ := stoppedByAnother_run
  obtain ⟨-, -, exactlyOnce⟩ := timer_firing_discipline ran
  have fired :=
    exactlyOnce next returned 0 (UvEventLoop.timeoutOptions 1 true) rfl rfl
      (by decide)
  exact ⟨state, next, _, ran, returned, fired⟩

end Running

end DkPull.Event
