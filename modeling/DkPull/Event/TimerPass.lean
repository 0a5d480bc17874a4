import DkPull.Event.TimerPeriod
import DkPull.Event.TimerPolling
import Mathlib.Data.List.Perm.Subperm

/-!
# One pass over the timers

Between two readings of the clock, `uv__run_timers` passes over the timers that
are due.  A timer that repeats is armed again before its callback is called,
and callbacks may create timers that are due at once.  No timer is called
twice, though, so that a pass comes to its end unless its callbacks keep
creating timers.
-/

namespace DkPull.Event

open DkPull.Libuv
open DkPull.Reactive

def called (outputs : List TimerOutput) : List Nat :=
  outputs.filterMap fun
    | .invoked timer _ => some timer
    | _ => none

@[simp]
theorem called_append (early late : List TimerOutput) :
    called (early ++ late) = called early ++ called late :=
  List.filterMap_append

namespace Running

def IsDue (state : Running) (timer : Nat) : Prop :=
  (state.self.uvLoop.handles timer).active = true ∧
    (state.self.uvLoop.handles timer).timeout ≤ state.self.uvLoop.time

def dueTimers (state : Running) : List Nat :=
  (List.range state.self.created).filter fun timer =>
    (state.self.uvLoop.handles timer).active = true ∧
      (state.self.uvLoop.handles timer).timeout ≤ state.self.uvLoop.time

variable {state next : Running} {event : TimerEvent}
  {emitted : List TimerOutput}

private theorem Consistent.mem_dueTimers_iff
    (consistent : state.Consistent) (timer : Nat) :
    timer ∈ state.dueTimers ↔ state.IsDue timer := by
  rw [dueTimers, List.mem_filter, decide_eq_true_iff, List.mem_range]
  constructor
  · intro due
    exact due.2
  · intro due
    exact ⟨UvEventLoop.Consistent.created_of_active consistent due.1, due⟩

/-- Time stands still between two readings of the clock. -/
theorem Moves.same_time
    (moves : state.Moves event next emitted)
    (unread : ∀ hrtime, event ≠ .clock hrtime) :
    next.self.uvLoop.time = state.self.uvLoop.time := by
  cases moves with
  | updated hrtime => exact absurd rfl (unread hrtime)
  | polled hrtime => exact absurd rfl (unread hrtime)
  | stopped timer => simp
  | invoked timer => exact Loop.fire_time _ _
  | expired timer => exact UvEventLoop.closing_time _ _
  | _ => rfl

/-- A timer that has just been called is not due any more. -/
theorem Consistent.not_isDue_of_fire
    (consistent : state.Consistent)
    (possible : state.self.uvLoop.time ≤ lastTime) {timer : Nat}
    (inRange : timer < state.self.created)
    (fires :
      next.self =
        { state.self with uvLoop := state.self.uvLoop.fire timer }) :
    ¬ next.IsDue timer := by
  rintro ⟨active, due⟩
  rw [fires] at active due
  change _ ≤ (state.self.uvLoop.fire timer).time at due
  rw [Loop.fire_time] at due
  have later :=
    armedFor_of_fire consistent inRange (Nat.le_refl _) active _ possible due
  exact absurd later (Nat.not_succ_le_self _)

/-- In a step of a pass, a timer is called, or it is due behind the step only
if it was due before. -/
theorem called_or_kept
    (consistent : state.Consistent)
    (possible : state.self.uvLoop.time ≤ lastTime)
    (sameTime : next.self.uvLoop.time = state.self.uvLoop.time)
    (advances : state.Advances event next emitted) {timer : Nat}
    (inRange : timer < state.self.created) :
    (called emitted = [timer] ∧ state.IsDue timer ∧ ¬ next.IsDue timer) ∨
      (timer ∉ called emitted ∧ (next.IsDue timer → state.IsDue timer)) := by
  rcases advances.keeps_or_invokes consistent inRange with
    ⟨silent, keeps⟩ | ⟨rfl, active, due, fires⟩
  · refine .inr ⟨?_, ?_⟩
    · intro member
      obtain ⟨output, occurs, isCall⟩ := List.mem_filterMap.mp member
      cases output with
      | invoked other time =>
          cases isCall
          rw [invocations, List.filterMap_eq_nil_iff] at silent
          simpa using silent _ occurs
      | _ => cases isCall
    · rintro ⟨active, due⟩
      rw [keeps.timeout, sameTime] at due
      exact ⟨keeps.active active, due⟩
  · exact
      .inl
        ⟨rfl, ⟨active, due⟩,
          consistent.not_isDue_of_fire possible inRange fires⟩

private theorem called_cases (advances : state.Advances event next emitted) :
    called emitted = [] ∨
      ∃ timer,
        called emitted = [timer] ∧
          (state.self.uvLoop.handles timer).active = true := by
  cases advances with
  | invoked timer last active => exact .inr ⟨timer, rfl, active⟩
  | _ => exact .inl rfl

/-- What has happened since the clock was read. -/
structure OnePass (start : Running) (outputs : List TimerOutput)
    (state : Running) : Prop where
  consistent : state.Consistent
  time : state.self.uvLoop.time = start.self.uvLoop.time
  created : start.self.created ≤ state.self.created
  once : (called outputs).Nodup
  inRange : ∀ timer ∈ called outputs, timer < state.self.created
  behind : ∀ timer ∈ called outputs, ¬ state.IsDue timer
  justified :
    ∀ timer ∈ called outputs,
      timer < start.self.created → start.IsDue timer
  waiting :
    ∀ timer < start.self.created, state.IsDue timer → start.IsDue timer

theorem OnePass.start (consistent : state.Consistent) :
    OnePass state [] state where
  consistent := consistent
  time := rfl
  created := Nat.le_refl _
  once := List.nodup_nil
  inRange := by simp [called]
  behind := by simp [called]
  justified := by simp [called]
  waiting := fun _ _ isDue => isDue

/-- Every step keeps to the pass. -/
theorem OnePass.step
    {start : Running} {outputs : List TimerOutput}
    (pass : OnePass start outputs state)
    (possible : start.self.uvLoop.time ≤ lastTime)
    (agrees : next.Consistent)
    (sameTime : next.self.uvLoop.time = state.self.uvLoop.time)
    (advances : state.Advances event next emitted) :
    OnePass start (outputs ++ emitted) next := by
  have consistent := pass.consistent
  rw [← pass.time] at possible
  have kept := fun timer (inRange : timer < state.self.created) =>
    called_or_kept consistent possible sameTime advances inRange
  have grown := advances.created_le
  have nowInRange : ∀ timer ∈ called emitted, timer < state.self.created := by
    intro timer member
    rcases called_cases advances with none | ⟨other, single, active⟩
    · rw [none] at member
      cases member
    · rw [single, List.mem_singleton] at member
      rw [member]
      exact consistent.created_of_active active
  have isDue : ∀ timer ∈ called emitted, state.IsDue timer := by
    intro timer member
    rcases kept timer (nowInRange timer member) with ⟨-, due, -⟩ | ⟨absent, -⟩
    · exact due
    · exact absurd member absent
  constructor
  · exact agrees
  · exact sameTime.trans pass.time
  · exact Nat.le_trans pass.created grown
  · rw [called_append, List.nodup_append']
    refine ⟨pass.once, ?_, ?_⟩
    · rcases called_cases advances with none | ⟨other, single, -⟩
      · rw [none]
        exact List.nodup_nil
      · rw [single]
        exact List.nodup_singleton other
    · intro timer before now
      exact pass.behind timer before (isDue timer now)
  · rw [called_append]
    intro timer member
    rcases List.mem_append.mp member with before | now
    · exact Nat.lt_of_lt_of_le (pass.inRange timer before) grown
    · exact Nat.lt_of_lt_of_le (nowInRange timer now) grown
  · rw [called_append]
    intro timer member
    rcases List.mem_append.mp member with before | now
    · intro due
      rcases kept timer (pass.inRange timer before) with
        ⟨-, -, notDue⟩ | ⟨-, wasDue⟩
      · exact notDue due
      · exact pass.behind timer before (wasDue due)
    · rcases kept timer (nowInRange timer now) with
        ⟨-, -, notDue⟩ | ⟨absent, -⟩
      · exact notDue
      · exact absurd now absent
  · rw [called_append]
    intro timer member existed
    rcases List.mem_append.mp member with before | now
    · exact pass.justified timer before existed
    · exact pass.waiting timer existed (isDue timer now)
  · intro timer existed due
    have inRange := Nat.lt_of_lt_of_le existed pass.created
    rcases kept timer inRange with ⟨-, -, notDue⟩ | ⟨-, wasDue⟩
    · exact absurd due notDue
    · exact pass.waiting timer existed (wasDue due)

theorem OnePass.of_run
    {start : Running} {outputs : List TimerOutput}
    (pass : OnePass start outputs state)
    (possible : start.self.uvLoop.time ≤ lastTime)
    {later : List TimerEvent} {final : Running}
    {emitted : List TimerOutput}
    (continued : timerMachine.run state later = some (final, emitted))
    (unread : ∀ hrtime, .clock hrtime ∉ later)
    (unfailed : Unfailed emitted) :
    OnePass start (outputs ++ emitted) final := by
  induction later generalizing state outputs emitted with
  | nil =>
      cases continued
      rwa [List.append_nil]
  | cons event rest inductionHypothesis =>
      obtain ⟨middle, now, behind, stepped, followed, rfl⟩ :=
        Machine.run_cons_eq_some.mp continued
      obtain ⟨unfailedNow, unfailedBehind⟩ :=
        (unfailed_append_iff _ _).mp unfailed
      rcases pass.consistent.advances stepped with
        ⟨advances, agrees⟩ | refused
      · rcases pass.consistent.moves stepped with ⟨moves, -⟩ | ⟨refused, -⟩
        · have sameTime :=
            moves.same_time fun hrtime same =>
              unread hrtime (same ▸ List.mem_cons_self)
          rw [← List.append_assoc]
          exact
            inductionHypothesis
              (pass.step possible agrees sameTime advances) followed
              (fun hrtime member =>
                unread hrtime (List.mem_cons_of_mem event member))
              unfailedBehind
        · obtain ⟨failure, rfl⟩ := refused.fails
          exact absurd (by simp) (unfailedNow failure)
      · obtain ⟨failure, rfl⟩ := refused.1.fails
        exact absurd (by simp) (unfailedNow failure)

/-- Between two readings of the clock no timer is called twice, and none that
is not due or new.  So there are at most as many calls as there are due timers
and new ones. -/
theorem once_between_clocks
    {hrtime : UInt64} {events : List TimerEvent}
    {outputs : List TimerOutput}
    (ran :
      timerMachine.run (Running.init hrtime) events =
        some (state, outputs))
    {later : List TimerEvent} {final : Running}
    {emitted : List TimerOutput}
    (continued : timerMachine.run state later = some (final, emitted))
    (unread : ∀ hrtime, .clock hrtime ∉ later)
    (unfailed : Unfailed (outputs ++ emitted)) :
    (called emitted).Nodup ∧
      (∀ timer ∈ called emitted,
        timer < state.self.created →
          (state.self.uvLoop.handles timer).active = true ∧
            (state.self.uvLoop.handles timer).timeout ≤
              state.self.uvLoop.time) ∧
      (called emitted).length ≤
        state.dueTimers.length +
          (final.self.created - state.self.created) := by
  obtain ⟨before, behind⟩ := (unfailed_append_iff _ _).mp unfailed
  have consistent := consistent_of_unfailed ran before
  have timed := timed_of_unfailed ran before
  have pass :=
    (OnePass.start consistent).of_run timed.bounded continued unread behind
  rw [List.nil_append] at pass
  refine ⟨pass.once, pass.justified, ?_⟩
  have within :
      called emitted ⊆
        state.dueTimers ++
          List.range' state.self.created
            (final.self.created - state.self.created) := by
    intro timer member
    rw [List.mem_append, List.mem_range'_1]
    by_cases existed : timer < state.self.created
    · exact
        .inl
          ((consistent.mem_dueTimers_iff timer).mpr
            (pass.justified timer member existed))
    · have inRange := pass.inRange timer member
      exact .inr (by omega)
  have fewer := (List.subperm_of_subset pass.once within).length_le
  rwa [List.length_append, List.length_range'] at fewer

end Running

end DkPull.Event
