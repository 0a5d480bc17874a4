import DkPull.PullStream.Sinks.DrainRuns
import DkPull.PullStream.Sinks.ReduceOwnership

/-!
# What a reduce computes

As long as no check fails, a `Reduce` does what a drain would do whose handlers
are those of the `Reduce` without their checks.  Such a drain folds the values
and hands the result over with the termination.
-/

namespace DkPull.PullStream.Sinks

open DkPull.Types
open DkPull.Reactive

variable {T Accumulator : Type} {kind : SinkKind}
  {reducer : Accumulator → T → Accumulator}
  {moved : Accumulator → Accumulator} {initial : Accumulator}

/-- The handlers of a `Reduce` without their checks.  They work on the
accumulator and the invocations of the callback. -/
def foldDrain (reducer : Accumulator → T → Accumulator)
    (moved : Accumulator → Accumulator) :
    Drain T CheckFailure (Accumulator × List (Done × Accumulator)) where
  onValue value :=
    modify fun (accumulator, completions) =>
      (reducer accumulator value, completions)
  onDone done :=
    modify fun (accumulator, completions) =>
      (moved accumulator, completions ++ [(done, accumulator)])

private theorem nonThrowing_foldDrain : (foldDrain reducer moved).NonThrowing :=
  ⟨fun _ _ => rfl, fun _ _ => rfl⟩

def ReduceEvent.drainEvent : ReduceEvent T → Option (DrainEvent T)
  | .handle _ => none
  | .apply => some .sink
  | .answer request done value => some (.answer request done value)
  | .returned => some .returned
  | .threw => some .threw

def drainEvents (events : List (ReduceEvent T)) : List (DrainEvent T) :=
  events.flatMap fun event => event.drainEvent.toList

def Reducing.unowned (state : Reducing Accumulator) :
    Draining (Accumulator × List (Done × Accumulator)) :=
  ⟨state.draining.looper, state.self.accumulator, state.self.completions⟩

private theorem afterValues_foldDrain
    (initial : Accumulator) (values : List T) :
    (foldDrain reducer moved).afterValues (initial, []) values =
      (values.foldl reducer initial, []) := by
  induction values generalizing initial with
  | nil => rfl
  | cons value rest inductionHypothesis =>
      exact inductionHypothesis (reducer initial value)

private theorem afterStream_foldDrain
    (initial : Accumulator) (values : List T) (termination : Done) :
    (foldDrain reducer moved).afterStream (initial, []) values termination =
      (moved (values.foldl reducer initial),
        [(termination, values.foldl reducer initial)]) := by
  rw [Drain.afterStream, afterValues_foldDrain]
  rfl

private theorem unowned_leave (isOver : Bool) (state : Reducing Accumulator) :
    (state.leave kind isOver).unowned = state.unowned := by
  unfold Reducing.leave
  split <;> rfl

private theorem looper_leave (isOver : Bool) (state : Reducing Accumulator) :
    (state.leave kind isOver).draining.looper = state.draining.looper := by
  unfold Reducing.leave
  split <;> rfl

private theorem looper_enter (state : Reducing Accumulator) :
    (state.enter kind).draining.looper = state.draining.looper := by
  unfold Reducing.enter
  split <;> rfl

/-- A step of a `Reduce` in which no check fails is a step of the drain
inside. -/
theorem drain_replays_step
    {state next : Reducing Accumulator} {event : ReduceEvent T}
    {emitted : List (DrainOutput T CheckFailure)}
    (stepped : ReduceStep kind reducer moved state event next emitted)
    (unthrown : ∀ output ∈ emitted, output.isThrown = false) :
    (drainMachine (foldDrain reducer moved)).run state.unowned
        event.drainEvent.toList =
      some (next.unowned, emitted) := by
  cases stepped with
  | handled event next handles =>
      obtain ⟨looper, accumulator, completions, _, _⟩ := handle_frame handles
      simp [ReduceEvent.drainEvent, Reducing.unowned, looper, accumulator,
        completions]
  | applied held fresh =>
      rcases state with ⟨⟨application, self⟩, reduces, sinks, halted⟩
      cases fresh
      cases kind <;> rfl
  | refused held looper active =>
      have unthrown := unthrown _ (List.mem_singleton_self _)
      cases unthrown
  | failed looper active request done value made gone =>
      have unthrown := unthrown (.thrown .selfIsNull) (by simp)
      cases unthrown
  | ended looper active request done value made held ends =>
      simp [ReduceEvent.drainEvent, Reducing.unowned, Machine.run_singleton,
        drainMachine, active, made,
        Drain.callback_done nonThrowing_foldDrain ends]
      rfl
  | continued looper active request done value made held continues =>
      simp [ReduceEvent.drainEvent, Reducing.unowned, Machine.run_singleton,
        drainMachine, active, made,
        Drain.callback_value nonThrowing_foldDrain continues]
      rfl
  | returned looper follower active invoked popped =>
      rw [unowned_leave]
      simp [ReduceEvent.drainEvent, Reducing.unowned, Machine.run_singleton,
        Reducing.self, drainMachine, active, Drain.resume, popped]
  | threw looper follower active invoked popped =>
      rw [unowned_leave]
      simp [ReduceEvent.drainEvent, Reducing.unowned, Machine.run_singleton,
        Reducing.self, drainMachine, active, Drain.resume, popped]

/-- A run of a `Reduce` in which no check fails is a run of the drain
inside. -/
theorem drain_replays
    {events : List (ReduceEvent T)}
    {outputs : List (DrainOutput T CheckFailure)}
    {state : Reducing Accumulator}
    (ran :
      (reduceMachine kind reducer moved).run (.create kind initial) events =
        some (state, outputs))
    (unthrown : ∀ output ∈ outputs, output.isThrown = false) :
    (drainMachine (foldDrain reducer moved)).run (.create (initial, []))
        (drainEvents events) =
      some (state.unowned, outputs) := by
  obtain ⟨answers, replayed, rfl⟩ :=
    Machine.replay Reducing.unowned
      (fun event => event.drainEvent.toList)
      (fun output => output.isThrown = false) Eq rfl
      (fun _ _ _ _ front back => congrArg₂ (· ++ ·) front back)
      (fun state event next emitted stepped unthrown =>
        ⟨emitted,
          drain_replays_step (reduceStep_of_step stepped).2 unthrown, rfl⟩)
      ran unthrown
  exact replayed

def ReduceEvent.isApply : ReduceEvent T → Bool
  | .apply => true
  | _ => false

private theorem halted_of_step
    {state next : Reducing Accumulator} {event : ReduceEvent T}
    {emitted : List (DrainOutput T CheckFailure)}
    (live : state.halted = false)
    (stepped : ReduceStep kind reducer moved state event next emitted) :
    next.halted = emitted.any DrainOutput.isThrown := by
  cases stepped with
  | handled event next handles =>
      obtain ⟨_, _, _, same, _⟩ := handle_frame handles
      rw [same, live]
      rfl
  | applied held fresh => cases kind <;> exact live
  | refused held looper active => rfl
  | failed looper active request done value made gone =>
      simp [DrainOutput.isThrown]
  | ended looper active request done value made held ends => exact live
  | continued looper active request done value made held continues =>
      rw [List.any_cons, any_isThrown_requested]
      exact live
  | returned looper follower active invoked popped =>
      rw [any_isThrown_requested]
      unfold Reducing.leave
      split <;> exact live
  | threw looper follower active invoked popped =>
      rw [any_isThrown_requested]
      unfold Reducing.leave
      split <;> exact live

private theorem halted_of_run
    {events : List (ReduceEvent T)}
    {outputs : List (DrainOutput T CheckFailure)}
    {state : Reducing Accumulator}
    (ran :
      (reduceMachine kind reducer moved).run (.create kind initial) events =
        some (state, outputs)) :
    state.halted = outputs.any DrainOutput.isThrown := by
  refine
    Machine.history_invariant
      (fun _ outputs state =>
        state.halted = outputs.any DrainOutput.isThrown)
      rfl ?_ ran
  intro _ outputs state event next emitted _ halted stepped
  obtain ⟨live, stepped⟩ := reduceStep_of_step stepped
  rw [List.any_append, ← halted, live, halted_of_step live stepped]
  rfl

/-- A step creates the drain if it applies the sink, and fails the check for it
only if it applies the sink again. -/
theorem drain_of_step
    {state next : Reducing Accumulator} {event : ReduceEvent T}
    {emitted : List (DrainOutput T CheckFailure)}
    (stepped : ReduceStep kind reducer moved state event next emitted) :
    (next.draining.looper = none ↔
        state.draining.looper = none ∧ event.isApply = false) ∧
      (.thrown .drainExists ∈ emitted →
        state.draining.looper ≠ none ∧ event.isApply = true) := by
  cases stepped with
  | handled event next handles =>
      obtain ⟨looper, _⟩ := handle_frame handles
      simp [looper, ReduceEvent.isApply]
  | applied held fresh => simp [ReduceEvent.isApply]
  | refused held looper active =>
      simp [looper_enter, active, ReduceEvent.isApply]
  | failed looper active request done value made gone =>
      simp [active]
      split <;> simp
  | ended looper active request done value made held ends =>
      simp [active]
  | continued looper active request done value made held continues =>
      simp [active, thrown_notMem_requested]
  | returned looper follower active invoked popped =>
      rw [looper_leave]
      simp [active, thrown_notMem_requested]
  | threw looper follower active invoked popped =>
      rw [looper_leave]
      simp [active, thrown_notMem_requested]

/-- The drain exists from the first application on, and only a second one fails
the check for it. -/
theorem drain_of_run
    {events : List (ReduceEvent T)}
    {outputs : List (DrainOutput T CheckFailure)}
    {state : Reducing Accumulator}
    (ran :
      (reduceMachine kind reducer moved).run (.create kind initial) events =
        some (state, outputs)) :
    (state.draining.looper = none ↔
        events.countP ReduceEvent.isApply = 0) ∧
      (.thrown .drainExists ∈ outputs →
        1 < events.countP ReduceEvent.isApply) := by
  refine
    Machine.history_invariant
      (fun history outputs state =>
        (state.draining.looper = none ↔
            history.countP ReduceEvent.isApply = 0) ∧
          (.thrown .drainExists ∈ outputs →
            1 < history.countP ReduceEvent.isApply))
      (by simp [Reducing.create, Draining.create]) ?_ ran
  rintro history outputs state event next emitted _ ⟨unapplied, twice⟩
    stepped
  obtain ⟨creates, fails⟩ := drain_of_step (reduceStep_of_step stepped).2
  rw [List.countP_append, List.countP_singleton, creates, unapplied,
    List.mem_append]
  constructor
  · cases event.isApply <;> simp
  · rintro (early | late)
    · have before := twice early
      omega
    · obtain ⟨exists_, applies⟩ := fails late
      rw [ne_eq, unapplied] at exists_
      rw [applies, if_pos rfl]
      omega

/-! ## A stream is reduced -/

/-- A run of a `Reduce` that is applied once to a source with the given values
and termination, and kept until the last answer. -/
structure StreamRun
    (kind : SinkKind) (reducer : Accumulator → T → Accumulator)
    (moved : Accumulator → Accumulator) (initial : Accumulator)
    (values : List T) (termination : Done)
    (events : List (ReduceEvent T)) (state : Reducing Accumulator)
    (outputs : List (DrainOutput T CheckFailure)) : Prop where
  ran :
    (reduceMachine kind reducer moved).run (.create kind initial) events =
      some (state, outputs)
  kept : DeliversOnlyWhileKept kind reducer moved initial events
  once : events.countP ReduceEvent.isApply ≤ 1
  conforms : Conforms values termination (drainEvents events)

variable {values : List T} {termination : Done}
  {events : List (ReduceEvent T)} {state : Reducing Accumulator}
  {outputs : List (DrainOutput T CheckFailure)}

private theorem StreamRun.unthrown
    (streamRun :
      StreamRun kind reducer moved initial values termination events state
        outputs) :
    ∀ output ∈ outputs, output.isThrown = false := by
  intro output member
  cases output with
  | thrown err =>
      cases err with
      | selfIsNull =>
          exact
            absurd member
              ((counted_of_run streamRun.ran).2.mpr streamRun.kept)
      | drainExists =>
          have once := streamRun.once
          have twice := (drain_of_run streamRun.ran).2 member
          omega
  | _ => rfl

/-- The drain inside reads the same stream. -/
theorem StreamRun.drained
    (streamRun :
      StreamRun kind reducer moved initial values termination events state
        outputs) :
    (drainMachine (foldDrain reducer moved)).run (.create (initial, []))
        (drainEvents events) =
      some (state.unowned, outputs) :=
  drain_replays streamRun.ran streamRun.unthrown

/-- The callback is invoked with the fold once everything has been read, and
not before. -/
theorem StreamRun.completions
    (streamRun :
      StreamRun kind reducer moved initial values termination events state
        outputs)
    (ends : termination.toBool = true) :
    state.self.completions =
      if answeredRequests (drainEvents events) =
          List.range (values.length + 1) then
        [(termination, values.foldl reducer initial)]
      else [] := by
  have unowned : state.self.completions = state.unowned.handlers.2 := rfl
  have progress :=
    progress_of_run nonThrowing_foldDrain ends streamRun.drained
      streamRun.conforms
  rw [unowned]
  generalize drainEvents events = delivered, state.unowned = drained
    at progress ⊢
  cases progress with
  | fresh =>
      have unread : ([] : List Nat) ≠ List.range (values.length + 1) := by
        simp [List.range_succ]
      exact (if_neg unread).symm
  | reading read looper current =>
      have few := current.few
      have unread :
          List.range read ≠ List.range (values.length + 1) := by
        intro same
        have lengths := congrArg List.length same
        simp only [List.length_range] at lengths
        omega
      rw [current.handled, current.answered, if_neg unread,
        afterValues_foldDrain]
  | ended looper current =>
      rw [current.handled, current.answered, if_pos rfl,
        afterStream_foldDrain]

/-- A step that the drain inside can make is one that the `Reduce` can make. -/
theorem reduce_steps
    {state : Reducing Accumulator} (live : state.halted = false)
    (applicable : state.draining.looper = none → 0 < state.sinks)
    {drainEvent : DrainEvent T}
    (possible :
      ((drainMachine (foldDrain reducer moved)).step state.unowned
        drainEvent).isSome = true) :
    ∃ event : ReduceEvent T,
      event.drainEvent = some drainEvent ∧
        (event.isApply = true → state.draining.looper = none) ∧
        ((reduceMachine kind reducer moved).step state event).isSome =
          true := by
  rcases state with ⟨⟨application, self⟩, reduces, sinks, halted⟩
  cases live
  cases application with
  | none =>
      cases drainEvent with
      | sink =>
          refine ⟨.apply, rfl, fun _ => rfl, ?_⟩
          have held : sinks ≠ 0 := Nat.ne_of_gt (applicable rfl)
          simp [reduceMachine, held]
      | _ => simp [drainMachine, Reducing.unowned] at possible
  | some looper =>
      cases drainEvent with
      | sink => simp [drainMachine, Reducing.unowned] at possible
      | answer request done value =>
          refine
            ⟨.answer request done value, rfl, by simp [ReduceEvent.isApply],
              ?_⟩
          by_cases made : request < looper.handles
          · simp [reduceMachine, drainMachine, made]
          · simp [drainMachine, Reducing.unowned, made] at possible
      | returned =>
          refine ⟨.returned, rfl, by simp [ReduceEvent.isApply], ?_⟩
          simpa [reduceMachine, drainMachine, Reducing.unowned,
            Reducing.resume, Drain.resume] using possible
      | threw =>
          refine ⟨.threw, rfl, by simp [ReduceEvent.isApply], ?_⟩
          simpa [reduceMachine, drainMachine, Reducing.unowned,
            Reducing.resume, Drain.resume] using possible

/-- A run that is not complete goes on while the `Reduce` is kept. -/
theorem StreamRun.continues
    [Nonempty T]
    (streamRun :
      StreamRun kind reducer moved initial values termination events state
        outputs)
    (ends : termination.toBool = true)
    (kept : Kept kind state)
    (applicable : state.draining.looper = none → 0 < state.sinks)
    (incomplete : ¬ Complete (drainEvents events) state.draining) :
    ∃ event next emitted,
      event.drainEvent.isSome = true ∧
        StreamRun kind reducer moved initial values termination
          (events ++ [event]) next (outputs ++ emitted) := by
  obtain ⟨drainEvent, _, _, possible, conforms⟩ :=
    continues_of_incomplete nonThrowing_foldDrain ends streamRun.drained
      streamRun.conforms incomplete
  have live : state.halted = false := by
    rw [halted_of_run streamRun.ran, List.any_eq_false]
    intro output member
    rw [streamRun.unthrown output member]
    exact Bool.false_ne_true
  obtain ⟨event, translated, fresh, steps⟩ :=
    @reduce_steps _ _ kind _ _ state live applicable _
      (Option.isSome_iff_exists.mpr ⟨_, possible⟩)
  obtain ⟨⟨next, emitted⟩, stepped⟩ := Option.isSome_iff_exists.mp steps
  refine ⟨event, next, emitted, by rw [translated]; rfl, ?_⟩
  constructor
  · exact
      Machine.run_concat_eq_some.mpr
        ⟨state, outputs, emitted, streamRun.ran, stepped, rfl⟩
  · rw [DeliversOnlyWhileKept, forall_moment_concat_iff]
    refine ⟨streamRun.kept, fun _ reached member => ?_⟩
    rw [streamRun.ran, Option.mem_some_iff] at member
    rw [← member]
    exact kept
  · have once := streamRun.once
    rw [List.countP_append, List.countP_singleton]
    split
    · rename_i applies
      rw [(drain_of_run streamRun.ran).1.mp (fresh applies)]
    · exact once
  · rw [drainEvents, List.flatMap_append, List.flatMap_singleton, translated]
    exact conforms

/-- A complete run has made all calls and handed the fold over. -/
theorem StreamRun.completed
    (streamRun :
      StreamRun kind reducer moved initial values termination events state
        outputs)
    (ends : termination.toBool = true)
    (complete : Complete (drainEvents events) state.draining) :
    outputs = wholeConsumption values termination ∧
      state.self.completions =
        [(termination, values.foldl reducer initial)] := by
  obtain ⟨looper, current⟩ :=
    ended_of_complete nonThrowing_foldDrain ends streamRun.drained
      streamRun.conforms complete
  refine ⟨current.made, ?_⟩
  rw [streamRun.completions ends, if_pos current.answered]

private theorem foldl_pushBack (vector values : List T) :
    values.foldl pushBack vector = vector ++ values := by
  induction values generalizing vector with
  | nil => exact (List.append_nil vector).symm
  | cons value rest inductionHypothesis =>
      rw [List.foldl_cons, inductionHypothesis, pushBack, List.append_assoc]
      rfl

/-- A `Reduce` computes the left fold of the stream.  Whatever the caller does
with its references as long as one is kept until the last answer, and
whichever answers come inside a call of the source: the calls are those of a
drain; the callback is invoked once everything has been read, and not before,
with the termination and the fold; and a run that is not complete can go on.
For a collecting sink the fold is the list of the values. -/
theorem reduce_folds_stream
    (ends : termination.toBool = true) :
    (∀ {Accumulator : Type} {kind : SinkKind}
        {reducer : Accumulator → T → Accumulator}
        {moved : Accumulator → Accumulator} {initial : Accumulator}
        {events : List (ReduceEvent T)} {state : Reducing Accumulator}
        {outputs : List (DrainOutput T CheckFailure)},
      StreamRun kind reducer moved initial values termination events state
          outputs →
        outputs <+: wholeConsumption values termination ∧
          (drainEvents events).length ≤ 2 * values.length + 3 ∧
          state.self.completions =
            (if answeredRequests (drainEvents events) =
                List.range (values.length + 1) then
              [(termination, values.foldl reducer initial)]
            else []) ∧
          (Complete (drainEvents events) state.draining →
            outputs = wholeConsumption values termination ∧
              state.self.completions =
                [(termination, values.foldl reducer initial)]) ∧
          (Nonempty T → Kept kind state →
            (state.draining.looper = none → 0 < state.sinks) →
            ¬ Complete (drainEvents events) state.draining →
              ∃ event next emitted,
                event.drainEvent.isSome = true ∧
                  StreamRun kind reducer moved initial values termination
                    (events ++ [event]) next (outputs ++ emitted))) ∧
      ∀ {moved : List T → List T} {events : List (ReduceEvent T)}
        {state : Reducing (List T)}
        {outputs : List (DrainOutput T CheckFailure)},
        (makeCollect moved).run (.create .collect []) events =
            some (state, outputs) →
          DeliversOnlyWhileKept .collect pushBack moved [] events →
          events.countP ReduceEvent.isApply ≤ 1 →
          Conforms values termination (drainEvents events) →
          Complete (drainEvents events) state.draining →
            state.self.completions = [(termination, values)] := by
  constructor
  · intro Accumulator kind reducer moved initial events state outputs
      streamRun
    have progress :=
      progress_of_run nonThrowing_foldDrain ends streamRun.drained
        streamRun.conforms
    exact
      ⟨progress.isPrefix, progress.length_le, streamRun.completions ends,
        streamRun.completed ends,
        fun _ kept applicable =>
          streamRun.continues ends kept applicable⟩
  · intro moved events state outputs ran kept once conforms complete
    have streamRun :
        StreamRun .collect pushBack moved [] values termination events state
          outputs :=
      ⟨ran, kept, once, conforms⟩
    rw [(streamRun.completed ends complete).2, foldl_pushBack]
    rfl

/-- A sum and a list of the same stream.  The value comes inside the call of
the source, the end comes later, when the caller of the sum has dropped its
sink function. -/
theorem reduce_folds_stream_mixed :
    [(EndOrError.TRUE, 15)] = [(EndOrError.TRUE, [5].foldl Nat.add 10)] ∧
      [(EndOrError.TRUE, [5])] = [(EndOrError.TRUE, [5])] :=
  have folds := @reduce_folds_stream Nat [5] EndOrError.TRUE rfl
  ⟨((folds.1
      (show
        StreamRun .reduce Nat.add (fun _ => 0) 10 [5] EndOrError.TRUE
          [.handle .makeSink, .apply, .answer 0 .FALSE 5, .returned,
            .returned, .handle .dropSink, .answer 1 .TRUE 0]
          ⟨⟨some ⟨⟨false, true⟩, [], 2⟩, 1, 0, [(.TRUE, 15)]⟩, 1, 0, false⟩
          [.request .FALSE, .onValue 5, .request .FALSE, .onDone .TRUE]
        from ⟨by decide, by decide, by decide, by decide⟩)).2.2.2.1
      ⟨_, rfl, rfl, by decide⟩).2,
    folds.2
      (show
        (makeCollect fun _ => []).run (.create .collect [])
            [.apply, .answer 0 .FALSE 5, .returned, .returned,
              .answer 1 .TRUE 0] =
          some
            (⟨⟨some ⟨⟨false, true⟩, [], 2⟩, 1, [], [(.TRUE, [5])]⟩, 0, 1,
                false⟩,
              [.request .FALSE, .onValue 5, .request .FALSE, .onDone .TRUE])
        from by decide)
      (by decide) (by decide) (by decide) ⟨_, rfl, rfl, by decide⟩⟩

/-! ## The checks -/

/-- The check of the handlers never fails, and so the callback is reached,
exactly if the `Reduce` is kept whenever the source answers.  At every moment
before a check fails the weak pointers of the handlers can be locked exactly
while a chain of strong references leads to the `Reduce`. -/
theorem reduce_survives_iff_kept
    (ran :
      (reduceMachine kind reducer moved).run (.create kind initial) events =
        some (state, outputs)) :
    ((.thrown .selfIsNull ∉ outputs ∧
        ∀ values termination,
          events.countP ReduceEvent.isApply ≤ 1 →
          termination.toBool = true →
          Conforms values termination (drainEvents events) →
          Complete (drainEvents events) state.draining →
            ∃ accumulator,
              state.self.completions = [(termination, accumulator)]) ↔
      DeliversOnlyWhileKept kind reducer moved initial events) ∧
    (state.halted = false → ∀ pending,
      (0 < state.self.useCount ↔
        (ownership kind state pending).Alive .reduce)) := by
  refine
    ⟨⟨?_, ?_⟩, fun live _ => ((counted_of_run ran).1 live).held_iff_alive⟩
  · rintro ⟨passed, _⟩
    exact (counted_of_run ran).2.mp passed
  · intro kept
    refine ⟨(counted_of_run ran).2.mpr kept, ?_⟩
    intro values termination once ends conforms complete
    have streamRun :
        StreamRun kind reducer moved initial values termination events state
          outputs :=
      ⟨ran, kept, once, conforms⟩
    exact ⟨_, (streamRun.completed ends complete).2⟩

/-- The caller of a sum drops its sink function as soon as it is applied, and
the `Reduce` only after the last answer. -/
theorem reduce_survives_iff_kept_summing :
    (.thrown .selfIsNull ∉
        ([.request .FALSE, .onValue 5, .request .FALSE, .onDone .TRUE] :
          List (DrainOutput Nat CheckFailure))) ∧
      ∃ accumulator,
        [(EndOrError.TRUE, 15)] = [(EndOrError.TRUE, accumulator)] :=
  have survives :=
    (reduce_survives_iff_kept
      (show
        (reduceMachine .reduce Nat.add fun _ => 0).run (.create .reduce 10)
            [.handle .makeSink, .apply, .handle .dropSink, .returned,
              .answer 0 .FALSE 5, .returned, .answer 1 .TRUE 0,
              .handle .dropReduce] =
          some
            (⟨⟨some ⟨⟨false, true⟩, [], 2⟩, 0, 0, [(.TRUE, 15)]⟩, 0, 0,
                false⟩,
              [.request .FALSE, .onValue 5, .request .FALSE, .onDone .TRUE])
        from by decide)).1.mpr
      (by decide)
  ⟨survives.1,
    survives.2 [5] .TRUE (by decide) rfl (by decide)
      ⟨_, rfl, rfl, by decide⟩⟩

/-- A collecting sink is dropped right after it has been applied, while the
first answer is pending. -/
theorem dropped_sink_fails_check :
    ¬ ∀ (values : List Nat) (termination : Done)
        (events : List (ReduceEvent Nat)) (state : Reducing (List Nat))
        (outputs : List (DrainOutput Nat CheckFailure)),
      termination.toBool = true →
        (makeCollect fun _ => []).run (.create .collect []) events =
          some (state, outputs) →
        events.countP ReduceEvent.isApply ≤ 1 →
        Conforms values termination (drainEvents events) →
          .thrown .selfIsNull ∉ outputs := by
  intro always
  have passed :=
    always [5] .TRUE
      [.apply, .returned, .handle .dropSink, .answer 0 .FALSE 5]
      ⟨⟨some ⟨⟨false, true⟩, [], 1⟩, 0, [], []⟩, 0, 0, true⟩
      [.request .FALSE, .onValue 5, .thrown .selfIsNull]
      rfl (by decide) (by decide) (by decide)
  exact passed (by decide)

end DkPull.PullStream.Sinks
