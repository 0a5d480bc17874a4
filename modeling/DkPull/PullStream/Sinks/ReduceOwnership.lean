import DkPull.PullStream.Sinks.Reduce
import DkPull.Reactive.Ownership

/-!
# Who keeps a reduce alive

The drain, its looper and the callbacks pending at the source hold no strong
reference to the `Reduce` they deliver to.  It lives as long as the caller
keeps a pointer to it or a sink function, or the application of a collecting
sink lasts, and no longer.  An answer that comes later fails the check in the
handler.
-/

namespace DkPull.PullStream.Sinks

open DkPull.Types
open DkPull.Reactive
open DkPull.Looper (looperMachine)

variable {T Accumulator : Type}

/-- The number of applications of the sink that have not returned yet. -/
def Reducing.applications (state : Reducing Accumulator) : Nat :=
  match state.draining.looper with
  | none => 0
  | some looper => looper.stack.count .start

/-- The caller still has the `Reduce` or a sink function, or it is still inside
the application of a collecting sink. -/
def Kept (kind : SinkKind) (state : Reducing Accumulator) : Prop :=
  0 < state.reduces ∨ 0 < state.sinks ∨
    kind = .collect ∧ 0 < state.applications

instance (kind : SinkKind) (state : Reducing Accumulator) :
    Decidable (Kept kind state) :=
  inferInstanceAs
    (Decidable
      (0 < state.reduces ∨ 0 < state.sinks ∨
        kind = .collect ∧ 0 < state.applications))

/-! ## The ownership graph -/

/-- Everything that holds references. -/
inductive Holder where
  | caller
  | application
  | callback (request : Nat)
  | sink
  | temporarySink
  | reduce
  | drain
  | looper
  deriving DecidableEq, Repr

/-- The strong references.  `pending` tells which callbacks the source still
has.  The handlers of the drain refer to the `Reduce` weakly. -/
def ownership (kind : SinkKind) (state : Reducing Accumulator)
    (pending : Nat → Prop) : Ownership Holder where
  root
    | .caller => True
    | .application => 0 < state.applications
    | .callback request => pending request
    | _ => False
  owns
    | .caller, .reduce => 0 < state.reduces
    | .caller, .sink => 0 < state.sinks
    | .application, .temporarySink => kind = .collect
    | .application, .drain => True
    | .application, .looper => True
    | .callback _, .drain => True
    | .callback _, .looper => True
    | .sink, .reduce => True
    | .temporarySink, .reduce => True
    | .reduce, .drain => state.draining.looper.isSome = true
    | .looper, .drain => True
    | _, _ => False

variable {kind : SinkKind} {state : Reducing Accumulator}
  {pending : Nat → Prop}

private theorem alive_sink_iff :
    (ownership kind state pending).Alive .sink ↔ 0 < state.sinks := by
  constructor
  · intro alive
    rw [Ownership.alive_iff_of_not_root id] at alive
    obtain ⟨owner, _, owns⟩ := alive
    cases owner with
    | caller => exact owns
    | _ => exact owns.elim
  · intro held
    have root : (ownership kind state pending).root .caller := trivial
    exact Ownership.alive_of_root root held

private theorem alive_application_iff :
    (ownership kind state pending).Alive .application ↔
      0 < state.applications := by
  rw [Ownership.alive_iff]
  constructor
  · rintro (stands | ⟨owner, _, owns⟩)
    · exact stands
    · cases owner <;> exact owns.elim
  · exact Or.inl

private theorem alive_temporarySink_iff :
    (ownership kind state pending).Alive .temporarySink ↔
      kind = .collect ∧ 0 < state.applications := by
  constructor
  · intro alive
    rw [Ownership.alive_iff_of_not_root id] at alive
    obtain ⟨owner, ownerAlive, owns⟩ := alive
    cases owner with
    | application =>
        exact ⟨owns, alive_application_iff.mp ownerAlive⟩
    | _ => exact owns.elim
  · rintro ⟨collects, applying⟩
    have root : (ownership kind state pending).root .application := applying
    exact Ownership.alive_of_root root collects

/-- Whatever callbacks the source still has, the `Reduce` is alive exactly if
it is kept. -/
theorem alive_reduce_iff_kept :
    (ownership kind state pending).Alive .reduce ↔ Kept kind state := by
  rw [Ownership.alive_iff_of_not_root id]
  constructor
  · rintro ⟨owner, alive, owns⟩
    cases owner with
    | caller => exact Or.inl owns
    | sink => exact Or.inr (Or.inl (alive_sink_iff.mp alive))
    | temporarySink =>
        exact Or.inr (Or.inr (alive_temporarySink_iff.mp alive))
    | _ => exact owns.elim
  · rintro (held | held | held)
    · exact ⟨.caller, .root trivial, held⟩
    · exact ⟨.sink, alive_sink_iff.mpr held, trivial⟩
    · exact ⟨.temporarySink, alive_temporarySink_iff.mpr held, trivial⟩

/-- The end of a call ends an application exactly if the application is the
innermost call. -/
theorem count_start_of_popped
    {looper follower : Looper.Configuration} {event : Looper.LooperEvent}
    {invoked : List Looper.LooperOutput}
    (stepped : Looper.LooperStep looper event follower invoked)
    (popping : event = .returned ∨ event = .threw) :
    looper.stack.count .start =
      follower.stack.count .start +
        if looper.stack.head? = some .start then 1 else 0 := by
  cases stepped with
  | started => rcases popping with same | same <;> cases same
  | noted => rcases popping with same | same <;> cases same
  | entered => rcases popping with same | same <;> cases same
  | startReturned rest innermost => simp [innermost]
  | repeated rest innermost => simp [innermost]
  | finished rest innermost => simp [innermost]
  | unwound activation rest innermost =>
      cases activation <;> simp [innermost]

def Reducing.temporaries (kind : SinkKind) (state : Reducing Accumulator) :
    Nat :=
  if kind = .collect then state.applications else 0

/-- The control block counts the strong references of the caller and those of
the applications. -/
def Counted (kind : SinkKind) (state : Reducing Accumulator) : Prop :=
  state.self.useCount =
    state.reduces + state.sinks + state.temporaries kind

/-- What the caller does with its references changes nothing but their
number. -/
theorem handle_frame
    {next : Reducing Accumulator} {event : HandleEvent}
    (handles : state.handle event = some next) :
    next.draining.looper = state.draining.looper ∧
      next.self.accumulator = state.self.accumulator ∧
      next.self.completions = state.self.completions ∧
      next.halted = state.halted ∧
      (state.reduces + state.sinks ≤ state.self.useCount →
        next.self.useCount + (state.reduces + state.sinks) =
          state.self.useCount + (next.reduces + next.sinks)) := by
  cases event <;> simp only [Reducing.handle] at handles <;>
    split at handles <;> cases handles <;>
    refine ⟨rfl, rfl, rfl, rfl, fun enough => ?_⟩ <;>
    simp only [Reducing.updateSelf, Reducing.self, Reduce.acquire,
      Reduce.release] at enough ⊢ <;>
    omega

private theorem count_start_next (looper : Looper.Configuration) :
    looper.next.1.stack.count .start = looper.stack.count .start := by
  cases idle : looper.self.looperFunctionReturned with
  | false => rw [Looper.next_of_looping idle]
  | true => simp [Looper.next_of_idle idle]

theorem Counted.leave
    {looper follower : Looper.Configuration} {event : Looper.LooperEvent}
    {invoked : List Looper.LooperOutput}
    (counted : Counted kind state)
    (active : state.draining.looper = some looper)
    (stepped : Looper.LooperStep looper event follower invoked)
    (popping : event = .returned ∨ event = .threw) :
    Counted kind
      ({ state with draining.looper := some follower }.leave kind
        state.applicationInnermost) := by
  rcases state with ⟨⟨application, self⟩, reduces, sinks, halted⟩
  cases active
  have popped := count_start_of_popped stepped popping
  cases kind with
  | reduce => exact counted
  | collect =>
      have before :
          self.useCount = reduces + sinks + looper.stack.count .start :=
        counted
      by_cases innermost : looper.stack.head? = some .start
      · -- The application ends and its reference is released.
        rw [if_pos innermost] at popped
        simp only [Counted, Reducing.leave, Reducing.applicationInnermost,
          Option.bind_some, innermost, decide_true, Bool.and_true, if_true]
        change
          self.useCount - 1 = reduces + sinks + follower.stack.count .start
        omega
      · rw [if_neg innermost] at popped
        simp only [Counted, Reducing.leave, Reducing.applicationInnermost,
          Option.bind_some, innermost, decide_false, Bool.and_false,
          Bool.false_eq_true, if_false]
        change self.useCount = reduces + sinks + follower.stack.count .start
        omega

/-- Every step keeps the count right, unless a check fails. -/
theorem Counted.step
    {reducer : Accumulator → T → Accumulator}
    {moved : Accumulator → Accumulator}
    {next : Reducing Accumulator} {event : ReduceEvent T}
    {emitted : List (DrainOutput T CheckFailure)}
    (counted : Counted kind state)
    (stepped : ReduceStep kind reducer moved state event next emitted)
    (live : next.halted = false) : Counted kind next := by
  cases stepped with
  | handled event next handles =>
      obtain ⟨same, _, _, _, balance⟩ := handle_frame handles
      have temporaries : next.temporaries kind = state.temporaries kind := by
        rw [Reducing.temporaries, Reducing.applications, same]
        rfl
      unfold Counted at counted ⊢
      have kept := balance (by omega)
      omega
  | applied held fresh =>
      rcases state with ⟨⟨application, self⟩, reduces, sinks, halted⟩
      cases fresh
      cases kind with
      | reduce => exact counted
      | collect =>
          exact congrArg (· + 1) counted
  | refused held looper active => cases live
  | failed looper active request done value made gone => cases live
  | ended looper active request done value made held ends =>
      exact counted
  | continued looper active request done value made held continues =>
      rcases state with ⟨⟨application, self⟩, reduces, sinks, halted⟩
      cases active
      simpa [Counted, Reducing.self, Reducing.temporaries,
        Reducing.applications, count_start_next] using counted
  | returned looper follower active invoked popped =>
      have stepped : looperMachine.step looper .returned = _ := popped
      exact
        counted.leave active (Looper.looperStep_iff.mp stepped) (Or.inl rfl)
  | threw looper follower active invoked popped =>
      have stepped : looperMachine.step looper .threw = _ := popped
      exact
        counted.leave active (Looper.looperStep_iff.mp stepped) (Or.inr rfl)

/-- The `Reduce` is referred to exactly if it is kept. -/
theorem Counted.held_iff_kept (counted : Counted kind state) :
    0 < state.self.useCount ↔ Kept kind state := by
  unfold Counted at counted
  rw [counted]
  cases kind with
  | reduce =>
      simp only [Reducing.temporaries, Kept, reduceCtorEq, if_false,
        false_and, or_false]
      omega
  | collect =>
      simp only [Reducing.temporaries, Kept, if_true, true_and]
      omega

/-- The weak pointers of the handlers can be locked exactly while a chain of
strong references leads to the `Reduce`. -/
theorem Counted.held_iff_alive (counted : Counted kind state) :
    0 < state.self.useCount ↔
      (ownership kind state pending).Alive .reduce := by
  rw [counted.held_iff_kept, alive_reduce_iff_kept]

def ReduceEvent.isAnswer : ReduceEvent T → Bool
  | .answer .. => true
  | _ => false

/-- Whenever the source answers, the `Reduce` is still kept. -/
def DeliversOnlyWhileKept
    (kind : SinkKind) (reducer : Accumulator → T → Accumulator)
    (moved : Accumulator → Accumulator) (initial : Accumulator)
    (events : List (ReduceEvent T)) : Prop :=
  ∀ before event after,
    events = before ++ event :: after → event.isAnswer = true →
      ∀ reached ∈
          (reduceMachine kind reducer moved).run (.create kind initial)
            before,
        Kept kind reached.1

variable {reducer : Accumulator → T → Accumulator}
  {moved : Accumulator → Accumulator} {initial : Accumulator}

instance [DecidableEq T] [DecidableEq Accumulator]
    (events : List (ReduceEvent T)) :
    Decidable
      (DeliversOnlyWhileKept kind reducer moved initial events) :=
  decidable_of_iff _
    (forall_moment_iff
      (fun before event =>
        event.isAnswer = true →
          ∀ reached ∈
              (reduceMachine kind reducer moved).run (.create kind initial)
                before,
            Kept kind reached.1)
      events).symm

/-- A handler fails its check exactly if the `Reduce` is no longer kept when
the source answers. -/
theorem selfIsNull_of_step
    {next : Reducing Accumulator} {event : ReduceEvent T}
    {emitted : List (DrainOutput T CheckFailure)}
    (counted : Counted kind state)
    (stepped : ReduceStep kind reducer moved state event next emitted) :
    .thrown .selfIsNull ∉ emitted ↔
      (event.isAnswer = true → Kept kind state) := by
  have held := counted.held_iff_kept
  cases stepped with
  | handled => simp [ReduceEvent.isAnswer]
  | applied => simp [ReduceEvent.isAnswer]
  | refused => simp [ReduceEvent.isAnswer]
  | failed looper active request done value made gone =>
      simp [ReduceEvent.isAnswer, ← held, gone]
  | ended looper active request done value made present ends =>
      simp [held.mp present]
  | continued looper active request done value made present continues =>
      simp [held.mp present, thrown_notMem_requested]
  | returned looper follower active invoked popped =>
      simp [ReduceEvent.isAnswer, thrown_notMem_requested]
  | threw looper follower active invoked popped =>
      simp [ReduceEvent.isAnswer, thrown_notMem_requested]

/-- The count is right at every moment of a run in which no check has failed,
and a handler has failed its check exactly if the source has answered when the
`Reduce` was no longer kept. -/
theorem counted_of_run
    {events : List (ReduceEvent T)}
    {outputs : List (DrainOutput T CheckFailure)}
    (ran :
      (reduceMachine kind reducer moved).run (.create kind initial) events =
        some (state, outputs)) :
    (state.halted = false → Counted kind state) ∧
      (.thrown .selfIsNull ∉ outputs ↔
        DeliversOnlyWhileKept kind reducer moved initial events) := by
  refine
    Machine.history_invariant
      (fun history outputs state =>
        (state.halted = false → Counted kind state) ∧
          (.thrown .selfIsNull ∉ outputs ↔
            DeliversOnlyWhileKept kind reducer moved initial history))
      ⟨?_, ?_⟩ ?_ ran
  · intro _
    cases kind <;> rfl
  · simp [DeliversOnlyWhileKept]
  · rintro history outputs state event next emitted front ⟨counted, checked⟩
      stepped
    obtain ⟨live, stepped⟩ := reduceStep_of_step stepped
    refine ⟨(counted live).step stepped, ?_⟩
    rw [List.mem_append, not_or, checked,
      selfIsNull_of_step (counted live) stepped, DeliversOnlyWhileKept,
      DeliversOnlyWhileKept, forall_moment_concat_iff]
    simp [front]

end DkPull.PullStream.Sinks
