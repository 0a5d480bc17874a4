import DkPull.Event.TimerPeriod
import DkPull.Event.TimerPolling

/-!
# When `Run` returns

Once all active timers are due and none of them repeats, `Run` returns unless
the user creates more timers.  Every step reduces the work that is left.
-/

namespace DkPull.Event

open DkPull.Libuv
open DkPull.Reactive

namespace Running

/-- The active handles still have to fire and to be closed, the waiting ones
have to be closed. -/
def openWork (state : Running) : Nat :=
  3 * state.self.uvLoop.timerHeap.length +
    state.self.uvLoop.closingHandles.length

/-- How many steps the loop can take at most before `Run` returns, from a
position with some open work.  A turn that begins with open work is followed by
another one. -/
def stepsLeftAt (work : Nat) : Position → Nat
  | .outside => 0
  | .aborted => 0
  | .whileAlive => work + if work = 0 then 1 else 8
  | .updateTime => work + 7
  | .runTimers false => work + 6
  | .runTimers true => work + if work = 0 then 2 else 9
  | .inCallback _ false => work + 8
  | .inCallback _ true => work + 11
  | .polling => work + 5
  | .closingHandles handles =>
      work + handles.length + if work = 0 then 4 else 11
  | .updateTimeAgain => work + if work = 0 then 3 else 10

def stepsLeft (state : Running) : Nat :=
  stepsLeftAt state.openWork state.position

/-- All active timers are due, and none of them repeats. -/
structure Finishing (state : Running) : Prop where
  consistent : state.Consistent
  possible : state.self.uvLoop.time ≤ lastTime
  inside : state.position ≠ .outside
  running : state.position ≠ .aborted
  once :
    ∀ timer,
      (state.self.uvLoop.handles timer).active = true →
        (state.self.timers timer).type = .oneTime
  due :
    ∀ timer,
      (state.self.uvLoop.handles timer).active = true →
        (state.self.uvLoop.handles timer).timeout ≤ state.self.uvLoop.time
  polling : state.position = .polling → state.self.uvLoop.timerHeap = []

variable {state next : Running} {event : TimerEvent}
  {emitted : List TimerOutput}

private theorem Consistent.alive_iff (consistent : state.Consistent) :
    state.self.uvLoop.alive = true ↔ state.openWork ≠ 0 := by
  have counted := consistent.wellFormed.counted
  unfold Loop.alive openWork
  rw [Bool.or_eq_true, decide_eq_true_iff, counted, Bool.not_eq_true',
    List.isEmpty_eq_false_iff, ← List.length_pos_iff]
  omega

private theorem openWork_closing
    (consistent : state.Consistent) {timer : Nat}
    (inactive : (state.self.uvLoop.handles timer).active = false)
    (position : Position) :
    openWork ⟨state.self.closing timer, position⟩ ≤ state.openWork + 1 := by
  have absent : timer ∉ state.self.uvLoop.timerHeap := by
    rw [(consistent.wellFormed.tracked timer).active, inactive]
    exact Bool.false_ne_true
  unfold openWork UvEventLoop.closing
  dsimp only
  split_ifs
  · exact Nat.le_succ _
  · have heap :
        (state.self.uvLoop.enterClosing timer true).timerHeap =
          state.self.uvLoop.timerHeap := by
      change (state.self.uvLoop.timerStop timer).timerHeap = _
      rw [Loop.timerStop_of_inactive inactive]
    rw [heap, Loop.enterClosing_closingHandles, List.length_cons]
    omega

private theorem openWork_fire
    (consistent : state.Consistent) {timer : Nat}
    (active : (state.self.uvLoop.handles timer).active = true)
    (once : (state.self.timers timer).type = .oneTime)
    (position : Position) :
    openWork
        ⟨{ state.self with uvLoop := state.self.uvLoop.fire timer },
          position⟩ + 3 =
      state.openWork := by
  have inRange := consistent.created_of_active active
  have single := (consistent.coherent timer inRange).fires_once once
  have member := (consistent.wellFormed.tracked timer).active.mpr active
  obtain ⟨heap, -⟩ := consistent.wellFormed.timerStop_heap timer
  have positive := List.length_pos_of_mem member
  unfold openWork
  dsimp only
  rw [Loop.fire, if_pos single, heap, Loop.timerStop_closingHandles,
    List.length_erase_of_mem member]
  omega

private theorem stepsLeft_lt
    {position : Position} (work : Nat) (isHere : state.position = position)
    (isWork : next.openWork = work)
    (less :
      stepsLeftAt work next.position <
        stepsLeftAt state.openWork position) :
    next.stepsLeft < state.stepsLeft := by
  unfold stepsLeft
  rw [isHere, isWork]
  exact less

theorem Finishing.transfer
    (finishing : state.Finishing) (agrees : next.Consistent)
    (position :
      next.position ≠ .outside ∧ next.position ≠ .aborted ∧
        next.position ≠ .polling)
    (types :
      ∀ timer,
        (next.self.timers timer).type = (state.self.timers timer).type)
    (active :
      ∀ timer,
        (next.self.uvLoop.handles timer).active = true →
          (state.self.uvLoop.handles timer).active = true ∧
            (next.self.uvLoop.handles timer).timeout =
              (state.self.uvLoop.handles timer).timeout)
    (forward : state.self.uvLoop.time ≤ next.self.uvLoop.time)
    (possible : next.self.uvLoop.time ≤ lastTime) : next.Finishing where
  consistent := agrees
  possible := possible
  inside := position.1
  running := position.2.1
  once := by
    intro timer isActive
    rw [types]
    exact finishing.once timer (active timer isActive).1
  due := by
    intro timer isActive
    obtain ⟨wasActive, sameTimeout⟩ := active timer isActive
    rw [sameTimeout]
    exact UInt64.le_trans (finishing.due timer wasActive) forward
  polling := fun isPolling => absurd isPolling position.2.2

theorem Finishing.moved
    (finishing : state.Finishing) {position : Position}
    (agrees : Consistent ⟨state.self, position⟩)
    (elsewhere :
      position ≠ .outside ∧ position ≠ .aborted ∧ position ≠ .polling) :
    Finishing ⟨state.self, position⟩ :=
  finishing.transfer agrees elsewhere (fun _ => rfl)
    (fun _ isActive => ⟨isActive, rfl⟩) UInt64.le_rfl finishing.possible

private theorem Consistent.timerHeap_eq_nil
    (consistent : state.Consistent)
    (due :
      ∀ timer,
        (state.self.uvLoop.handles timer).active = true →
          (state.self.uvLoop.handles timer).timeout ≤
            state.self.uvLoop.time)
    (noneDue : state.self.uvLoop.nextTimer = none) :
    state.self.uvLoop.timerHeap = [] := by
  rw [Loop.nextTimer_eq_none_iff] at noneDue
  rw [List.eq_nil_iff_forall_not_mem]
  intro timer member
  have active := (consistent.wellFormed.tracked timer).active.mp member
  exact
    absurd (due timer active) (UInt64.not_le.mpr (noneDue timer member))

theorem Finishing.fire
    (finishing : state.Finishing) {timer : Nat} {last : Bool}
    (single : (state.self.uvLoop.handles timer).repeatTime = 0)
    (agrees :
      Consistent
        ⟨{ state.self with uvLoop := state.self.uvLoop.fire timer },
          .inCallback timer last⟩) :
    Finishing
      ⟨{ state.self with uvLoop := state.self.uvLoop.fire timer },
        .inCallback timer last⟩ := by
  apply finishing.transfer agrees (by simp) (fun _ => rfl)
  case active =>
    intro other isActive
    change ((state.self.uvLoop.fire timer).handles other).active = true
      at isActive
    change _ ∧ ((state.self.uvLoop.fire timer).handles other).timeout = _
    by_cases same : other = timer
    · rw [same, Loop.fire_handles_of_once single] at isActive
      cases isActive
    · rw [Loop.fire_handles_of_ne same] at isActive ⊢
      exact ⟨isActive, rfl⟩
  case forward =>
    change _ ≤ (state.self.uvLoop.fire timer).time
    rw [Loop.fire_time]
    exact UInt64.le_rfl
  case possible =>
    change (state.self.uvLoop.fire timer).time ≤ _
    rw [Loop.fire_time]
    exact finishing.possible

theorem Finishing.closing
    (finishing : state.Finishing) {timer : Nat} {last : Bool}
    (inactive : (state.self.uvLoop.handles timer).active = false)
    (agrees : Consistent ⟨state.self.closing timer, .runTimers last⟩) :
    Finishing ⟨state.self.closing timer, .runTimers last⟩ := by
  apply finishing.transfer agrees (by simp)
  case types =>
    intro other
    rw [UvEventLoop.closing_timers]
  case active =>
    intro other isActive
    by_cases same : other = timer
    · rw [same, UvEventLoop.closing_handles_self] at isActive
      split_ifs at isActive
      rw [inactive] at isActive
      cases isActive
    · rw [UvEventLoop.closing_handles_of_ne same] at isActive ⊢
      exact ⟨isActive, rfl⟩
  case forward =>
    rw [UvEventLoop.closing_time]
    exact UInt64.le_rfl
  case possible =>
    rw [UvEventLoop.closing_time]
    exact finishing.possible

theorem Finishing.closedTimer
    (finishing : state.Finishing) {timer : Nat} {rest : List Nat}
    (agrees :
      Consistent ⟨state.self.closedTimer timer, .closingHandles rest⟩) :
    Finishing ⟨state.self.closedTimer timer, .closingHandles rest⟩ := by
  apply finishing.transfer agrees (by simp)
  case types =>
    intro other
    rw [UvEventLoop.closedTimer_timers]
    by_cases same : other = timer
    · rw [same, Function.update_self]
    · rw [Function.update_of_ne same]
  case active =>
    intro other isActive
    rw [UvEventLoop.closedTimer_handles] at isActive ⊢
    by_cases same : other = timer
    · rw [same, Function.update_self] at isActive ⊢
      exact ⟨isActive, rfl⟩
    · rw [Function.update_of_ne same] at isActive ⊢
      exact ⟨isActive, rfl⟩
  case forward => exact UInt64.le_rfl
  case possible => exact finishing.possible

/-- A callback that returns leaves at most one more handle to close. -/
theorem stepsLeftAt_runTimers_lt
    {work before : Nat} (atMost : work ≤ before + 1) (timer : Nat)
    (last : Bool) :
    stepsLeftAt work (.runTimers last) <
      stepsLeftAt before (.inCallback timer last) := by
  cases last with
  | false =>
      simp only [stepsLeftAt]
      omega
  | true =>
      simp only [stepsLeftAt]
      split_ifs <;> omega

/-- A call of a timer is worth three steps. -/
theorem stepsLeftAt_inCallback_lt
    {work before : Nat} (worked : work + 3 = before) (timer : Nat)
    (last : Bool) :
    stepsLeftAt work (.inCallback timer last) <
      stepsLeftAt before (.runTimers last) := by
  cases last with
  | false =>
      simp only [stepsLeftAt]
      omega
  | true =>
      simp only [stepsLeftAt]
      split_ifs <;> omega

/-- Every step of the loop reduces the number of steps that are left. -/
theorem Finishing.of_moves
    (finishing : state.Finishing) (moves : state.Moves event next emitted)
    (agrees : next.Consistent) (isInternal : event.isInternal = true)
    (goesOn : emitted ≠ [.runReturned]) :
    next.Finishing ∧ next.stepsLeft < state.stepsLeft := by
  have consistent := finishing.consistent
  cases moves with
  | created => cases isInternal
  | stopped => cases isInternal
  | run outside => exact absurd outside finishing.inside
  | runReturned => exact absurd rfl goesOn
  | alive isHere isAlive =>
      refine ⟨finishing.moved agrees (by simp), ?_⟩
      rw [consistent.alive_iff] at isAlive
      refine stepsLeft_lt state.openWork isHere rfl ?_
      change state.openWork + 7 < state.openWork + ite _ _ _
      rw [if_neg isAlive]
      exact Nat.lt_succ_self _
  | updated hrtime last isHere forward =>
      refine
        ⟨finishing.transfer agrees (by simp) (fun _ => rfl)
          (fun _ isActive => ⟨isActive, rfl⟩) forward
          (milliseconds_le_lastTime hrtime), ?_⟩
      refine stepsLeft_lt state.openWork isHere rfl ?_
      cases last with
      | false => exact Nat.lt_succ_self _
      | true =>
          simp only [stepsLeftAt, if_true]
          split_ifs <;> omega
  | invoked timer last isHere least due =>
      have active :=
        (consistent.wellFormed.tracked timer).active.mp
          (Loop.mem_of_heapMin least)
      have once := finishing.once timer active
      have inRange := consistent.created_of_active active
      have single := (consistent.coherent timer inRange).fires_once once
      have worked :=
        openWork_fire consistent active once (.inCallback timer last)
      refine ⟨finishing.fire single agrees, ?_⟩
      refine stepsLeft_lt _ isHere rfl ?_
      exact stepsLeftAt_inCallback_lt worked timer last
  | passed last isHere noneDue =>
      cases last with
      | false =>
          refine ⟨?_, ?_⟩
          · exact
              { finishing with
                consistent := agrees
                inside := by simp
                running := by simp
                polling := fun _ =>
                  consistent.timerHeap_eq_nil finishing.due noneDue }
          · refine stepsLeft_lt state.openWork isHere rfl ?_
            exact Nat.lt_succ_self _
      | true =>
          refine ⟨finishing.moved agrees (by simp), ?_⟩
          refine stepsLeft_lt state.openWork isHere rfl ?_
          simp only [stepsLeftAt, if_true]
          split_ifs <;> omega
  | rearmed timer last isHere =>
      refine ⟨finishing.moved agrees (by simp), ?_⟩
      refine stepsLeft_lt state.openWork isHere rfl ?_
      exact stepsLeftAt_runTimers_lt (Nat.le_succ _) timer last
  | expired timer last isHere once =>
      have isCurrent : state.position.current = some timer := by
        rw [isHere]
        rfl
      have inRange := consistent.running timer isCurrent
      have inactive := (consistent.coherent timer inRange).idle isCurrent once
      refine ⟨finishing.closing inactive agrees, ?_⟩
      refine stepsLeft_lt _ isHere rfl ?_
      exact
        stepsLeftAt_runTimers_lt
          (openWork_closing consistent inactive (.runTimers last)) timer last
  | polled hrtime isHere forward =>
      refine
        ⟨finishing.transfer agrees (by simp) (fun _ => rfl)
          (fun _ isActive => ⟨isActive, rfl⟩) forward
          (milliseconds_le_lastTime hrtime), ?_⟩
      have empty := finishing.polling isHere
      have finalWork :
          openWork
              ⟨{ state.self with
                  uvLoop :=
                    { state.self.uvLoop.updateTime hrtime with
                      closingHandles := [] } },
                .closingHandles state.self.uvLoop.closingHandles⟩ = 0 := by
        simp [openWork, Loop.updateTime, empty]
      have work :
          state.openWork = state.self.uvLoop.closingHandles.length := by
        simp [openWork, empty]
      refine stepsLeft_lt 0 isHere finalWork ?_
      simp only [stepsLeftAt, work, if_true]
      omega
  | finished timer rest isHere =>
      refine ⟨finishing.closedTimer agrees, ?_⟩
      refine stepsLeft_lt state.openWork isHere rfl ?_
      simp only [stepsLeftAt, List.length_cons]
      split_ifs <;> omega
  | closedAll isHere =>
      refine ⟨finishing.moved agrees (by simp), ?_⟩
      refine stepsLeft_lt state.openWork isHere rfl ?_
      simp only [stepsLeftAt, List.length_nil]
      split_ifs <;> omega

/-- The loop takes no more steps than are left. -/
theorem Finishing.of_run
    (finishing : state.Finishing) {later : List TimerEvent}
    {outputs : List TimerOutput}
    (ran : timerMachine.run state later = some (next, outputs))
    (isInternal : ∀ event ∈ later, event.isInternal = true)
    (goesOn : .runReturned ∉ outputs) :
    next.Finishing ∧ next.stepsLeft + later.length ≤ state.stepsLeft := by
  induction later generalizing state outputs with
  | nil =>
      cases ran
      exact ⟨finishing, Nat.le_refl _⟩
  | cons event rest inductionHypothesis =>
      obtain ⟨middle, emitted, behind, stepped, continued, rfl⟩ :=
        Machine.run_cons_eq_some.mp ran
      rw [List.mem_append, not_or] at goesOn
      have now := isInternal event List.mem_cons_self
      have notReturned : emitted ≠ [.runReturned] := by
        rintro rfl
        exact goesOn.1 (List.mem_singleton_self _)
      rcases finishing.consistent.moves stepped with
        ⟨moves, agrees⟩ | ⟨refused, -⟩
      · obtain ⟨stillFinishing, less⟩ :=
          finishing.of_moves moves agrees now notReturned
        obtain ⟨finally', atMost⟩ :=
          inductionHypothesis stillFinishing continued
            (fun other member =>
              isInternal other (List.mem_cons_of_mem event member))
            goesOn.2
        refine ⟨finally', ?_⟩
        rw [List.length_cons]
        omega
      · cases refused with
        | callbackIsNull => cases now
        | alreadyStopped => cases now

/-- The loop can always go on. -/
theorem Finishing.goes_on (finishing : state.Finishing) :
    ∃ event,
      event.isInternal = true ∧ timerMachine.step state event ≠ none := by
  obtain ⟨hrtime, reading⟩ := exists_milliseconds_eq finishing.possible
  have forward : state.self.uvLoop.time ≤ milliseconds hrtime := by
    rw [reading]
    exact UInt64.le_rfl
  cases isHere : state.position with
  | outside => exact absurd isHere finishing.inside
  | aborted => exact absurd isHere finishing.running
  | whileAlive =>
      refine ⟨.proceed, rfl, ?_⟩
      simp only [timerMachine, proceed, isHere]
      split_ifs <;> exact Option.some_ne_none _
  | updateTime =>
      refine ⟨.clock hrtime, rfl, ?_⟩
      simp [timerMachine, readClock, isHere, forward]
  | runTimers last =>
      refine ⟨.proceed, rfl, ?_⟩
      simp only [timerMachine, proceed, isHere]
      split <;> exact Option.some_ne_none _
  | inCallback timer last =>
      refine ⟨.returned, rfl, ?_⟩
      simp only [timerMachine, isHere]
      exact Option.some_ne_none _
  | polling =>
      refine ⟨.clock hrtime, rfl, ?_⟩
      simp [timerMachine, readClock, isHere, forward]
  | closingHandles handles =>
      refine ⟨.proceed, rfl, ?_⟩
      cases handles with
      | nil => simp [timerMachine, proceed, isHere]
      | cons timer rest => simp [timerMachine, proceed, isHere]
  | updateTimeAgain =>
      refine ⟨.clock hrtime, rfl, ?_⟩
      simp [timerMachine, readClock, isHere, forward]

private theorem stepsLeft_le (state : Running) :
    state.stepsLeft ≤
      state.openWork + state.position.taken.length + 11 := by
  unfold stepsLeft
  cases state.position with
  | runTimers last =>
      cases last with
      | false => simp only [stepsLeftAt]; omega
      | true => simp only [stepsLeftAt]; split_ifs <;> omega
  | inCallback timer last =>
      cases last with
      | false => simp only [stepsLeftAt]; omega
      | true => simp only [stepsLeftAt]; omega
  | closingHandles handles =>
      simp only [stepsLeftAt, Position.taken]
      split_ifs <;> omega
  | _ => simp only [stepsLeftAt]; first | omega | (split_ifs <;> omega)

/-- When all active timers are due and none of them repeats, `Run` returns
after a bounded number of steps, unless the user creates or stops timers in
between.  Before it returns, the loop is never stuck. -/
theorem run_returns
    {hrtime : UInt64} {events : List TimerEvent}
    {outputs : List TimerOutput}
    (ran :
      timerMachine.run (Running.init hrtime) events =
        some (state, outputs))
    (running : state.position ≠ .aborted)
    (inside : state.position ≠ .outside)
    (once :
      ∀ timer,
        (state.self.uvLoop.handles timer).active = true →
          (state.self.timers timer).type = .oneTime)
    (due :
      ∀ timer,
        (state.self.uvLoop.handles timer).active = true →
          (state.self.uvLoop.handles timer).timeout ≤
            state.self.uvLoop.time)
    {later : List TimerEvent} {final : Running}
    {emitted : List TimerOutput}
    (isInternal : ∀ event ∈ later, event.isInternal = true)
    (continued : timerMachine.run state later = some (final, emitted))
    (notReturned : .runReturned ∉ emitted) :
    later.length ≤
        3 * state.self.uvLoop.timerHeap.length +
          state.self.uvLoop.closingHandles.length +
          state.position.taken.length + 11 ∧
      ∃ event,
        event.isInternal = true ∧
          timerMachine.step final event ≠ none := by
  rcases unfailed_or_refused ran with
    ⟨consistent, unfailed⟩ | ⟨aborted, -⟩
  · have timed := timed_of_unfailed ran unfailed
    have finishing : state.Finishing :=
      { consistent := consistent
        possible := timed.bounded
        inside := inside
        running := running
        once := once
        due := due
        polling := by
          intro polling
          exact
            consistent.timerHeap_eq_nil due
              (nextTimer_of_polling ran unfailed polling) }
    obtain ⟨stillFinishing, atMost⟩ :=
      finishing.of_run continued isInternal notReturned
    have bound := state.stepsLeft_le
    unfold openWork at bound
    exact ⟨by omega, stillFinishing.goes_on⟩
  · exact absurd aborted running

end Running

end DkPull.Event
