import DkPull.Looper.Looper
import Mathlib.Data.List.Nodup
import Mathlib.Data.List.Perm.Subperm

/-!
# What the flags of the looper stand for

`looperFunctionReturned` is false while an invocation made by the loop is
active, and `nextCalled` notes a call that the loop has yet to serve.  Both
readings depend on how exceptions leave the looper function: an exception that
leaves an invocation made by the loop also leaves the loop, and the flags stay
as they are.
-/

namespace DkPull

open DkPull.Reactive

namespace Looper

/-- The invocations whose handles are called, in order of the calls. -/
def origins (events : List LooperEvent) : List Nat :=
  events.filterMap fun
    | .next origin => some origin
    | _ => none

def nextCalls (events : List LooperEvent) : Nat :=
  (origins events).length

@[simp]
theorem origins_append (first second : List LooperEvent) :
    origins (first ++ second) = origins first ++ origins second :=
  List.filterMap_append

@[simp]
theorem origins_next (origin : Nat) :
    origins [.next origin] = [origin] :=
  rfl

@[simp]
theorem origins_start : origins [.start] = [] :=
  rfl

@[simp]
theorem origins_returned : origins [.returned] = [] :=
  rfl

@[simp]
theorem origins_threw : origins [.threw] = [] :=
  rfl

/-- The number of noted calls that the loop has yet to serve. -/
def Configuration.pending (config : Configuration) : Nat :=
  config.self.nextCalled.toNat

/-- The books of a run. -/
structure Accounts
    (history : List LooperEvent) (outputs : List LooperOutput)
    (config : Configuration) : Prop where
  invocations : outputs.length = config.handles
  unstarted :
    .start ∉ history → config.handles = 0 ∧ config.stack = []
  startFrames : config.stack.count .start ≤ history.count .start
  atLeast : history.count .start ≤ config.handles
  atMost :
    config.handles + config.pending ≤
      history.count .start + nextCalls history
  made : ∀ origin ∈ origins history, origin < config.handles

theorem Accounts.started_of_active
    {history : List LooperEvent} {outputs : List LooperOutput}
    {config : Configuration} {activation : Activation}
    {rest : List Activation}
    (accounts : Accounts history outputs config)
    (innermost : config.stack = activation :: rest)
    (event : LooperEvent) :
    .start ∈ history ++ [event] := by
  apply List.mem_append_left
  by_contra notStarted
  have empty := (accounts.unstarted notStarted).2
  rw [innermost] at empty
  cases empty

theorem Accounts.made_next
    {history : List LooperEvent} {outputs : List LooperOutput}
    {config : Configuration} {origin handles : Nat}
    (accounts : Accounts history outputs config)
    (handed : origin < config.handles) (grown : config.handles ≤ handles) :
    ∀ called ∈ origins (history ++ [.next origin]), called < handles := by
  intro called member
  rw [origins_append, List.mem_append] at member
  apply Nat.lt_of_lt_of_le _ grown
  rcases member with earlier | now
  · exact accounts.made called earlier
  · rw [List.mem_singleton.mp now]
    exact handed

theorem Accounts.create : Accounts [] [] .create := by
  constructor <;>
    simp [Configuration.create, Configuration.pending, origins]

/-- Every step keeps the books. -/
theorem Accounts.step
    {history : List LooperEvent} {event : LooperEvent}
    {outputs emitted : List LooperOutput} {config target : Configuration}
    (accounts : Accounts history outputs config)
    (stepped : looperMachine.step config event = some (target, emitted)) :
    Accounts (history ++ [event]) (outputs ++ emitted) target := by
  have invocations := accounts.invocations
  have unstarted := accounts.unstarted
  have counted := accounts.startFrames
  have atLeast := accounts.atLeast
  have atMost := accounts.atMost
  have made := accounts.made
  unfold Configuration.pending at atMost
  cases looperStep_iff.mp stepped with
  | started =>
      constructor
      · simp [invocations]
      · simp
      · simpa using counted
      · simp
        omega
      · simp [Configuration.pending, nextCalls] at atMost ⊢
        omega
      · intro origin member
        exact Nat.lt_succ_of_lt (made origin (by simpa using member))
  | noted origin handed looping =>
      constructor
      · simpa using invocations
      · simpa using unstarted
      · simpa using counted
      · simp
        omega
      · simp [Configuration.pending, nextCalls] at atMost ⊢
        omega
      · exact accounts.made_next handed (Nat.le_refl _)
  | entered origin handed idle =>
      constructor
      · simp [invocations]
      · intro notStarted
        have noHandles := (unstarted (by simpa using notStarted)).1
        omega
      · simpa using counted
      · simp
        omega
      · simp [Configuration.pending, nextCalls] at atMost ⊢
        omega
      · exact accounts.made_next handed (Nat.le_succ _)
  | startReturned rest innermost =>
      constructor
      · simpa using invocations
      · intro notStarted
        exact absurd (accounts.started_of_active innermost _) notStarted
      · rw [innermost, List.count_cons] at counted
        simp at counted ⊢
        omega
      · simpa using atLeast
      · simpa [Configuration.pending, nextCalls] using atMost
      · simpa using made
  | repeated rest innermost called =>
      constructor
      · simp [invocations]
      · intro notStarted
        exact absurd (accounts.started_of_active innermost _) notStarted
      · rw [innermost] at counted
        simpa using counted
      · simp
        omega
      · simp [Configuration.pending, nextCalls, called] at atMost ⊢
        omega
      · intro origin member
        exact Nat.lt_succ_of_lt (made origin (by simpa using member))
  | finished rest innermost uncalled =>
      constructor
      · simpa using invocations
      · intro notStarted
        exact absurd (accounts.started_of_active innermost _) notStarted
      · rw [innermost] at counted
        simpa using counted
      · simpa using atLeast
      · simpa [Configuration.pending, nextCalls, uncalled] using atMost
      · simpa using made
  | unwound activation rest innermost =>
      constructor
      · simpa using invocations
      · intro notStarted
        exact absurd (accounts.started_of_active innermost _) notStarted
      · rw [innermost, List.count_cons] at counted
        simp at counted ⊢
        omega
      · simpa using atLeast
      · simpa [Configuration.pending, nextCalls] using atMost
      · simpa using made

theorem accounts_of_run
    {events : List LooperEvent} {config : Configuration}
    {outputs : List LooperOutput}
    (ran :
      looperMachine.run .create events = some (config, outputs)) :
    Accounts events outputs config :=
  Machine.history_invariant Accounts .create
    (fun _ _ _ _ _ _ _ accounts stepped => accounts.step stepped) ran

theorem length_eq_counts (stack : List Activation) :
    stack.length = stack.count .start + stack.count .loop := by
  induction stack with
  | nil =>
      rfl
  | cons activation rest inductionHypothesis =>
      cases activation <;> simp [inductionHypothesis] <;> omega

/-! ## The flags -/

def ThrowsOnlyFromStart (events : List LooperEvent) : Prop :=
  ∀ before event after,
    events = before ++ event :: after →
    event = .threw →
    ∀ config outputs,
      looperMachine.run .create before = some (config, outputs) →
        config.stack.head? = some .start

theorem throwsOnlyFromStart_concat_iff
    {history : List LooperEvent} (event : LooperEvent)
    {config : Configuration} {outputs : List LooperOutput}
    (ran :
      looperMachine.run .create history = some (config, outputs)) :
    ThrowsOnlyFromStart (history ++ [event]) ↔
      ThrowsOnlyFromStart history ∧
        (event = .threw → config.stack.head? = some .start) := by
  have momentwise :=
    @forall_moment_concat_iff _
      (fun before event =>
        event = .threw →
          ∀ config outputs,
            looperMachine.run .create before = some (config, outputs) →
              config.stack.head? = some .start)
      history event
  simpa [ThrowsOnlyFromStart, ran] using momentwise

theorem ThrowsOnlyFromStart.of_unthrown
    {events : List LooperEvent} (unthrown : .threw ∉ events) :
    ThrowsOnlyFromStart events := by
  rintro before event after rfl rfl
  simp at unthrown

structure FlagsFollow
    (history : List LooperEvent) (config : Configuration) : Prop where
  oneLoop : config.stack.count .loop ≤ 1
  looping :
    .loop ∈ config.stack →
      ThrowsOnlyFromStart history ∧
        config.self.looperFunctionReturned = false
  idle :
    .loop ∉ config.stack →
    ThrowsOnlyFromStart history →
      config.self = ⟨false, true⟩
  stuck :
    ¬ ThrowsOnlyFromStart history →
      config.self.looperFunctionReturned = false

/-- While `looperFunctionReturned` is set, no loop is in progress and no
exception has left one. -/
theorem FlagsFollow.of_idle
    {history : List LooperEvent} {config : Configuration}
    (flags : FlagsFollow history config)
    (isIdle : config.self.looperFunctionReturned = true) :
    .loop ∉ config.stack ∧ ThrowsOnlyFromStart history := by
  constructor
  · intro member
    simp [(flags.looping member).2] at isIdle
  · by_contra thrown
    simp [flags.stuck thrown] at isIdle

theorem FlagsFollow.create : FlagsFollow [] .create := by
  constructor
  · simp [Configuration.create]
  · simp [Configuration.create]
  · exact fun _ _ => rfl
  · intro thrown
    exact absurd (ThrowsOnlyFromStart.of_unthrown (by simp)) thrown

theorem FlagsFollow.step
    {history : List LooperEvent} {event : LooperEvent}
    {outputs emitted : List LooperOutput} {config target : Configuration}
    (flags : FlagsFollow history config)
    (front : looperMachine.run .create history = some (config, outputs))
    (stepped : looperMachine.step config event = some (target, emitted)) :
    FlagsFollow (history ++ [event]) target := by
  have oneLoop := flags.oneLoop
  have looping := flags.looping
  have idle := flags.idle
  have stuck := flags.stuck
  have concat := throwsOnlyFromStart_concat_iff event front
  cases looperStep_iff.mp stepped with
  | started =>
      simp only [reduceCtorEq, false_implies, and_true] at concat
      constructor
      · simpa using oneLoop
      · simpa [concat] using looping
      · simpa [concat] using idle
      · simpa [concat] using stuck
  | noted origin handed isLooping =>
      simp only [reduceCtorEq, false_implies, and_true] at concat
      constructor
      · exact oneLoop
      · simpa [concat] using fun member => (looping member).1
      · rw [concat]
        intro absent fromStart
        simp [idle absent fromStart] at isLooping
      · simp
  | entered origin handed isIdle =>
      simp only [reduceCtorEq, false_implies, and_true] at concat
      obtain ⟨absent, fromStart⟩ := flags.of_idle isIdle
      constructor
      · simp [List.count_eq_zero.mpr absent]
      · exact fun _ => ⟨concat.mpr fromStart, rfl⟩
      · simp
      · exact fun thrown => absurd (concat.mpr fromStart) thrown
  | startReturned rest innermost =>
      simp only [reduceCtorEq, false_implies, and_true] at concat
      simp only [innermost, List.count_cons, List.mem_cons, reduceCtorEq,
        false_or] at oneLoop looping idle
      constructor
      · simpa using oneLoop
      · simpa [concat] using looping
      · simpa [concat] using idle
      · simpa [concat] using stuck
  | repeated rest innermost called =>
      simp only [reduceCtorEq, false_implies, and_true] at concat
      rw [innermost] at oneLoop looping
      have current := looping List.mem_cons_self
      constructor
      · exact oneLoop
      · exact fun _ => ⟨concat.mpr current.1, current.2⟩
      · simp
      · exact fun _ => current.2
  | finished rest innermost uncalled =>
      simp only [reduceCtorEq, false_implies, and_true] at concat
      rw [innermost] at oneLoop looping
      have fromStart := (looping List.mem_cons_self).1
      have absent : .loop ∉ rest := by
        rw [← List.count_eq_zero]
        simpa using oneLoop
      constructor
      · simp [List.count_eq_zero.mpr absent]
      · exact fun member => absurd member absent
      · exact fun _ _ => rfl
      · exact fun thrown => absurd (concat.mpr fromStart) thrown
  | unwound activation rest innermost =>
      cases activation with
      | start =>
          simp only [innermost, List.head?_cons, forall_const, and_true]
            at concat
          simp only [innermost, List.count_cons, List.mem_cons,
            reduceCtorEq, false_or] at oneLoop looping idle
          constructor
          · simpa using oneLoop
          · simpa [concat] using looping
          · simpa [concat] using idle
          · simpa [concat] using stuck
      | loop =>
          rw [innermost] at oneLoop looping
          have current := looping List.mem_cons_self
          have absent : .loop ∉ rest := by
            rw [← List.count_eq_zero]
            simpa using oneLoop
          have thrown : ¬ ThrowsOnlyFromStart (history ++ [.threw]) := by
            simp [concat, innermost]
          constructor
          · simp [List.count_eq_zero.mpr absent]
          · exact fun member => absurd member absent
          · exact fun _ fromStart => absurd fromStart thrown
          · exact fun _ => current.2

theorem flagsFollow_of_run
    {events : List LooperEvent} {config : Configuration}
    {outputs : List LooperOutput}
    (ran :
      looperMachine.run .create events = some (config, outputs)) :
    FlagsFollow events config :=
  Machine.history_invariant
    (fun history _ config => FlagsFollow history config) .create
    (fun _ _ _ _ _ _ front flags stepped => flags.step front stepped) ran

end Looper

end DkPull
