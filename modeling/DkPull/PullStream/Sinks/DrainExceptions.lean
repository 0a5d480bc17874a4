import DkPull.Looper.LooperExceptions
import DkPull.PullStream.Sinks.Drain

/-!
# A drain and its exceptions

The handlers of a drain may throw, and so may its source.  An exception of a
handler passes through the callback into the code of the source, which catches
it or lets it leave the call that the drain made.  Whatever the source does
with it, a drain never asks for more than it has handled; and it asks again
for as long as no exception has left a call of the source that the loop inside
its looper made.
-/

namespace DkPull.PullStream.Sinks

open DkPull.Types
open DkPull.Reactive
open DkPull.Looper (looperMachine ThrowsOnlyFromStart)

universe u

variable {T : Type} {Error State : Type u}

/-- What a callback lets out when its handler has ended. -/
def thrownBy : Except Error PUnit → List (DrainOutput T Error)
  | .ok _ => []
  | .error err => [.thrown err]

inductive DrainMove (drain : Drain T Error State) (state : Draining State) :
    DrainEvent T → Draining State → List (DrainOutput T Error) → Prop where
  | applied (fresh : state.looper = none) :
      DrainMove drain state .sink
        ⟨some Looper.Configuration.create.start.1, state.handlers⟩
        [.request EndOrError.FALSE]
  | ended (looper : Looper.Configuration)
      (active : state.looper = some looper)
      (request : Nat) (done : Done) (value : T)
      (made : request < looper.handles) (ends : done.toBool = true)
      (result : Except Error PUnit) (handlers : State)
      (handled : drain.onDone done state.handlers = (result, handlers)) :
      DrainMove drain state (.answer request done value)
        ⟨some looper, handlers⟩ (.onDone done :: thrownBy result)
  | refused (looper : Looper.Configuration)
      (active : state.looper = some looper)
      (request : Nat) (done : Done) (value : T)
      (made : request < looper.handles) (continues : done.toBool = false)
      (err : Error) (handlers : State)
      (handled : drain.onValue value state.handlers = (.error err, handlers)) :
      DrainMove drain state (.answer request done value)
        ⟨some looper, handlers⟩ [.onValue value, .thrown err]
  | continued (looper follower : Looper.Configuration)
      (active : state.looper = some looper)
      (request : Nat) (done : Done) (value : T)
      (made : request < looper.handles) (continues : done.toBool = false)
      (handlers : State)
      (handled : drain.onValue value state.handlers = (.ok ⟨⟩, handlers))
      (invoked : List Looper.LooperOutput)
      (called :
        looperMachine.step looper (.next request) =
          some (follower, invoked)) :
      DrainMove drain state (.answer request done value)
        ⟨some follower, handlers⟩ (.onValue value :: invoked.map requested)
  | returned (looper follower : Looper.Configuration)
      (active : state.looper = some looper)
      (invoked : List Looper.LooperOutput)
      (ended :
        looperMachine.step looper .returned = some (follower, invoked)) :
      DrainMove drain state .returned
        { state with looper := some follower } (invoked.map requested)
  | threw (looper follower : Looper.Configuration)
      (active : state.looper = some looper)
      (ended : looperMachine.step looper .threw = some (follower, [])) :
      DrainMove drain state .threw { state with looper := some follower } []

theorem drainMove_of_step
    {drain : Drain T Error State} {state next : Draining State}
    {event : DrainEvent T} {emitted : List (DrainOutput T Error)}
    (stepped : (drainMachine drain).step state event = some (next, emitted)) :
    DrainMove drain state event next emitted := by
  cases active : state.looper with
  | none =>
      cases event with
      | sink =>
          simp only [drainMachine, active] at stepped
          cases stepped
          exact .applied active
      | _ => simp [drainMachine, active] at stepped
  | some looper =>
      cases event with
      | sink =>
          simp [drainMachine, active] at stepped
      | answer request done value =>
          simp only [drainMachine, active] at stepped
          split at stepped
          · rename_i made
            cases ends : done.toBool with
            | true =>
                rcases handled : drain.onDone done state.handlers with
                  ⟨result, handlers⟩
                have moved :=
                  DrainMove.ended looper active request done value made ends
                    result handlers handled
                cases result with
                | ok _ =>
                    simp only [Drain.callback, ends, if_true, handled]
                      at stepped
                    cases stepped
                    exact moved
                | error err =>
                    simp only [Drain.callback, ends, if_true, handled]
                      at stepped
                    cases stepped
                    exact moved
            | false =>
                rcases handled : drain.onValue value state.handlers with
                  ⟨result, handlers⟩
                cases result with
                | ok _ =>
                    simp only [Drain.callback, ends, Bool.false_eq_true,
                      if_false, handled] at stepped
                    cases stepped
                    refine
                      .continued looper _ active request done value made ends
                        handlers handled _ ?_
                    simp [looperMachine, made]
                | error err =>
                    simp only [Drain.callback, ends, Bool.false_eq_true,
                      if_false, handled] at stepped
                    cases stepped
                    exact
                      .refused looper active request done value made ends err
                        handlers handled
          · cases stepped
      | returned =>
          simp only [drainMachine, active, Drain.resume,
            Option.map_eq_some_iff, Prod.exists] at stepped
          obtain ⟨follower, invoked, ended, same⟩ := stepped
          cases same
          exact .returned looper follower active invoked ended
      | threw =>
          simp only [drainMachine, active, Drain.resume,
            Option.map_eq_some_iff, Prod.exists] at stepped
          obtain ⟨follower, invoked, ended, same⟩ := stepped
          have silent : invoked = [] := by
            have unwound :
                looperMachine.step looper .threw = some (follower, invoked) :=
              ended
            cases Looper.looperStep_iff.mp unwound with
            | unwound _ _ _ => rfl
          subst silent
          cases same
          exact .threw looper follower active ended

def DrainOutput.isRequest : DrainOutput T Error → Bool
  | .request _ => true
  | _ => false

def DrainOutput.isValue : DrainOutput T Error → Bool
  | .onValue _ => true
  | _ => false

def Draining.made (state : Draining State) : Nat :=
  state.looper.elim 0 Looper.Configuration.handles

/-- The number of requests that a drain has made or noted. -/
def Draining.due (state : Draining State) : Nat :=
  state.looper.elim 0 fun looper => looper.handles + looper.pending

theorem Draining.made_le_due (state : Draining State) :
    state.made ≤ state.due := by
  cases active : state.looper with
  | none => simp [made, due, active]
  | some looper => simp [made, due, active]

@[simp]
theorem countP_isRequest_requested (invoked : List Looper.LooperOutput) :
    invoked.countP
        ((DrainOutput.isRequest : DrainOutput T Error → Bool) ∘ requested) =
      invoked.length := by
  rw [List.countP_eq_length]
  rintro ⟨handle⟩ _
  rfl

@[simp]
theorem countP_isValue_requested (invoked : List Looper.LooperOutput) :
    invoked.countP
        ((DrainOutput.isValue : DrainOutput T Error → Bool) ∘ requested) =
      0 := by
  rw [List.countP_eq_zero]
  rintro ⟨handle⟩ _
  exact Bool.false_ne_true

@[simp]
theorem countP_isRequest_thrownBy (result : Except Error PUnit) :
    (thrownBy result : List (DrainOutput T Error)).countP
      DrainOutput.isRequest = 0 := by
  cases result <;> rfl

theorem looper_due_of_ended
    {looper follower : Looper.Configuration} {event : Looper.LooperEvent}
    {invoked : List Looper.LooperOutput}
    (isEnd : event = .returned ∨ event = .threw)
    (ended : looperMachine.step looper event = some (follower, invoked)) :
    follower.handles + follower.pending = looper.handles + looper.pending ∧
      follower.handles = looper.handles + invoked.length := by
  unfold Looper.Configuration.pending
  cases Looper.looperStep_iff.mp ended with
  | started => simp at isEnd
  | noted _ _ _ => simp at isEnd
  | entered _ _ _ => simp at isEnd
  | startReturned _ _ => exact ⟨rfl, rfl⟩
  | repeated _ _ called => simp [called]
  | finished _ _ uncalled => simp [uncalled]
  | unwound _ _ _ => exact ⟨rfl, rfl⟩

theorem looper_due_of_next
    {looper follower : Looper.Configuration} {origin : Nat}
    {invoked : List Looper.LooperOutput}
    (called :
      looperMachine.step looper (.next origin) = some (follower, invoked)) :
    follower.handles + follower.pending ≤
        looper.handles + looper.pending + 1 ∧
      follower.handles = looper.handles + invoked.length := by
  unfold Looper.Configuration.pending
  cases Looper.looperStep_iff.mp called with
  | noted _ _ _ => simp
  | entered _ _ _ => simp

/-- What a step of a drain does to the number of its requests. -/
theorem DrainMove.requests
    {drain : Drain T Error State} {state next : Draining State}
    {event : DrainEvent T} {emitted : List (DrainOutput T Error)}
    (moved : DrainMove drain state event next emitted) :
    next.made = state.made + emitted.countP DrainOutput.isRequest ∧
      (event ≠ .sink →
        next.due ≤ state.due + emitted.countP DrainOutput.isValue) := by
  cases moved with
  | applied fresh =>
      simp [Draining.made, fresh, Looper.Configuration.create,
        Looper.Configuration.start, Looper.Configuration.invoke,
        DrainOutput.isRequest]
  | ended looper active _ _ _ _ _ _ _ _ =>
      simp [Draining.made, Draining.due, active, DrainOutput.isRequest]
  | refused looper active _ _ _ _ _ _ _ _ =>
      simp [Draining.made, Draining.due, active, DrainOutput.isRequest]
  | continued looper follower active _ _ _ _ _ _ _ invoked called =>
      obtain ⟨dueAfter, madeAfter⟩ := looper_due_of_next called
      simpa [Draining.made, Draining.due, active, DrainOutput.isRequest,
        DrainOutput.isValue, List.countP_cons] using ⟨madeAfter, dueAfter⟩
  | returned looper follower active invoked ended =>
      obtain ⟨dueAfter, madeAfter⟩ := looper_due_of_ended (.inl rfl) ended
      simpa [Draining.made, Draining.due, active] using
        ⟨madeAfter, dueAfter.le⟩
  | threw looper follower active ended =>
      obtain ⟨dueAfter, madeAfter⟩ := looper_due_of_ended (.inr rfl) ended
      simpa [Draining.made, Draining.due, active] using
        ⟨madeAfter, dueAfter.le⟩

/-! ## Exceptions that leave a call of the source -/

/-- Each exception that has left a call of the source left the call that the
sink made when it was applied. -/
def ThrowsOnlyFromFirstCall (drain : Drain T Error State) (initial : State)
    (events : List (DrainEvent T)) : Prop :=
  ∀ before event after,
    events = before ++ event :: after →
    event = .threw →
    ∀ state outputs,
      (drainMachine drain).run (.create initial) before =
          some (state, outputs) →
        ∀ looper, state.looper = some looper →
          looper.stack.head? = some .start

variable {drain : Drain T Error State} {initial : State}

private theorem throwsOnlyFromFirstCall_concat_iff
    {history : List (DrainEvent T)} (event : DrainEvent T)
    {state : Draining State} {outputs : List (DrainOutput T Error)}
    (ran :
      (drainMachine drain).run (.create initial) history =
        some (state, outputs)) :
    ThrowsOnlyFromFirstCall drain initial (history ++ [event]) ↔
      ThrowsOnlyFromFirstCall drain initial history ∧
        (event = .threw →
          ∀ looper, state.looper = some looper →
            looper.stack.head? = some .start) := by
  have momentwise :=
    @forall_moment_concat_iff _
      (fun before event =>
        event = .threw →
          ∀ state outputs,
            (drainMachine drain).run (.create initial) before =
                some (state, outputs) →
              ∀ looper, state.looper = some looper →
                looper.stack.head? = some .start)
      history event
  simpa [ThrowsOnlyFromFirstCall, ran] using momentwise

/-- The looper of a drain has made a run of its own, and the exceptions of the
two runs are the same. -/
structure LooperRan (drain : Drain T Error State) (initial : State)
    (history : List (DrainEvent T)) (looper : Looper.Configuration)
    (calls : List Looper.LooperEvent) : Prop where
  ran :
    ∃ invoked,
      looperMachine.run .create calls = some (looper, invoked)
  thrown :
    ThrowsOnlyFromStart calls ↔ ThrowsOnlyFromFirstCall drain initial history

/-- A step in which the looper takes part is a further step of its run. -/
theorem LooperRan.step
    {history : List (DrainEvent T)} {state : Draining State}
    {outputs : List (DrainOutput T Error)}
    {looper follower : Looper.Configuration}
    {calls : List Looper.LooperEvent}
    (earlier : LooperRan drain initial history looper calls)
    (front :
      (drainMachine drain).run (.create initial) history =
        some (state, outputs))
    (active : state.looper = some looper)
    {event : DrainEvent T} {call : Looper.LooperEvent}
    (same : event = .threw ↔ call = .threw)
    {invoked : List Looper.LooperOutput}
    (called : looperMachine.step looper call = some (follower, invoked)) :
    LooperRan drain initial (history ++ [event]) follower
      (calls ++ [call]) := by
  obtain ⟨before, looperFront⟩ := earlier.ran
  constructor
  · exact
      ⟨before ++ invoked,
        Machine.run_concat_eq_some.mpr
          ⟨looper, before, invoked, looperFront, called, rfl⟩⟩
  · rw [Looper.throwsOnlyFromStart_concat_iff call looperFront,
      throwsOnlyFromFirstCall_concat_iff event front, earlier.thrown, same,
      active]
    simp

private theorem LooperRan.idle
    {history : List (DrainEvent T)} {state : Draining State}
    {outputs : List (DrainOutput T Error)} {looper : Looper.Configuration}
    {calls : List Looper.LooperEvent}
    (earlier : LooperRan drain initial history looper calls)
    (front :
      (drainMachine drain).run (.create initial) history =
        some (state, outputs))
    {event : DrainEvent T} (different : event ≠ .threw) :
    LooperRan drain initial (history ++ [event]) looper calls where
  ran := earlier.ran
  thrown := by
    rw [throwsOnlyFromFirstCall_concat_iff event front, earlier.thrown]
    simp [different]

/-- Nothing has been thrown before the sink is applied, and from then on the
looper makes a run of its own. -/
theorem looperRan_of_run
    {events : List (DrainEvent T)} {state : Draining State}
    {outputs : List (DrainOutput T Error)}
    (ran :
      (drainMachine drain).run (.create initial) events =
        some (state, outputs)) :
    (state.looper = none → ThrowsOnlyFromFirstCall drain initial events) ∧
      ∀ looper, state.looper = some looper →
        ∃ calls, LooperRan drain initial events looper calls := by
  refine
    Machine.history_invariant
      (fun history _ state =>
        (state.looper = none →
          ThrowsOnlyFromFirstCall drain initial history) ∧
        ∀ looper, state.looper = some looper →
          ∃ calls, LooperRan drain initial history looper calls)
      ⟨?_, by simp [Draining.create]⟩ ?_ ran
  · rintro _ before event after impossible
    simp at impossible
  intro history outputs state event next emitted front earlier stepped
  obtain ⟨unapplied, running⟩ := earlier
  cases drainMove_of_step stepped with
  | applied fresh =>
      refine ⟨by simp, ?_⟩
      rintro _ ⟨⟩
      refine ⟨[.start], ⟨[.invoked 0], rfl⟩, ?_⟩
      apply iff_of_true
      · exact .of_unthrown (by simp)
      · rw [throwsOnlyFromFirstCall_concat_iff .sink front]
        exact ⟨unapplied fresh, by simp⟩
  | ended looper active _ _ _ _ _ _ _ _ =>
      refine ⟨by simp, ?_⟩
      rintro _ ⟨⟩
      obtain ⟨calls, earlier⟩ := running looper active
      exact ⟨calls, earlier.idle front (by simp)⟩
  | refused looper active _ _ _ _ _ _ _ _ =>
      refine ⟨by simp, ?_⟩
      rintro _ ⟨⟩
      obtain ⟨calls, earlier⟩ := running looper active
      exact ⟨calls, earlier.idle front (by simp)⟩
  | continued looper follower active _ _ _ _ _ _ _ _ called =>
      refine ⟨by simp, ?_⟩
      rintro _ ⟨⟩
      obtain ⟨calls, earlier⟩ := running looper active
      exact ⟨_, earlier.step front active (by simp) called⟩
  | returned looper follower active _ ended =>
      refine ⟨by simp, ?_⟩
      rintro _ ⟨⟩
      obtain ⟨calls, earlier⟩ := running looper active
      exact ⟨_, earlier.step front active (by simp) ended⟩
  | threw looper follower active ended =>
      refine ⟨by simp, ?_⟩
      rintro _ ⟨⟩
      obtain ⟨calls, earlier⟩ := running looper active
      exact ⟨_, earlier.step front active (by simp) ended⟩

/-- Once an exception has left a loop, the looper function is never entered
again. -/
theorem silent_of_thrown
    {calls : List Looper.LooperEvent} {call : Looper.LooperEvent}
    {looper follower : Looper.Configuration}
    {invoked : List Looper.LooperOutput}
    (flags : Looper.FlagsFollow calls looper)
    (thrown : ¬ ThrowsOnlyFromStart calls) (further : call ≠ .start)
    (called : looperMachine.step looper call = some (follower, invoked)) :
    invoked = [] := by
  cases Looper.looperStep_iff.mp called with
  | started => exact absurd rfl further
  | noted _ _ _ => rfl
  | entered _ _ idle =>
      rw [flags.stuck thrown] at idle
      cases idle
  | startReturned _ _ => rfl
  | repeated _ innermost _ =>
      have inside : .loop ∈ looper.stack := by
        rw [innermost]
        exact List.mem_cons_self
      exact absurd (flags.looping inside).1 thrown
  | finished _ _ _ => rfl
  | unwound _ _ _ => rfl

/-- Once an exception has left a call of the source that a loop made, no step
of the drain makes a request. -/
theorem unasked_of_thrown
    {events : List (DrainEvent T)} {event : DrainEvent T}
    {state next : Draining State}
    {outputs emitted : List (DrainOutput T Error)}
    (ran :
      (drainMachine drain).run (.create initial) events =
        some (state, outputs))
    (thrown : ¬ ThrowsOnlyFromFirstCall drain initial events)
    (stepped : (drainMachine drain).step state event = some (next, emitted)) :
    emitted.countP DrainOutput.isRequest = 0 := by
  obtain ⟨unapplied, running⟩ := looperRan_of_run ran
  have silent :
      ∀ looper follower call invoked,
        state.looper = some looper →
        call ≠ .start →
        looperMachine.step looper call = some (follower, invoked) →
          invoked = [] := by
    intro looper follower call invoked active further called
    obtain ⟨calls, ⟨before, looperRan⟩, sameThrown⟩ := running looper active
    rw [← sameThrown] at thrown
    exact
      silent_of_thrown (Looper.flagsFollow_of_run looperRan) thrown further
        called
  cases drainMove_of_step stepped with
  | applied fresh => exact absurd (unapplied fresh) thrown
  | ended _ _ _ _ _ _ _ _ _ _ => simp [DrainOutput.isRequest]
  | refused _ _ _ _ _ _ _ _ _ _ => simp [DrainOutput.isRequest]
  | continued looper _ active _ _ _ _ _ _ _ _ called =>
      rw [silent looper _ _ _ active (by simp) called]
      simp [DrainOutput.isRequest]
  | returned looper _ active _ ended =>
      rw [silent looper _ _ _ active (by simp) ended]
      simp
  | threw _ _ _ _ => simp

private theorem never_asks_of_thrown
    {events : List (DrainEvent T)} {state : Draining State}
    {outputs : List (DrainOutput T Error)}
    (ran :
      (drainMachine drain).run (.create initial) events =
        some (state, outputs))
    (thrown : ¬ ThrowsOnlyFromFirstCall drain initial events)
    {later : List (DrainEvent T)} {final : Draining State}
    {emitted : List (DrainOutput T Error)}
    (continued :
      (drainMachine drain).run state later = some (final, emitted)) :
    emitted.countP DrainOutput.isRequest = 0 := by
  refine
    Machine.history_invariant
      (fun _ emitted _ => emitted.countP DrainOutput.isRequest = 0) rfl ?_
      continued
  intro history early middle event next now front earlier stepped
  have whole :=
    Machine.run_append_eq_some.mpr ⟨state, outputs, early, ran, front, rfl⟩
  have stillThrown :
      ¬ ThrowsOnlyFromFirstCall drain initial (events ++ history) := by
    intro fromFirst
    apply thrown
    rintro before event after rfl
    exact fromFirst before event (after ++ history) (by simp)
  rw [List.countP_append, earlier, unasked_of_thrown whole stillThrown stepped]

/-- A drain makes at most one request more than it has handled values. -/
theorem requests_le
    {events : List (DrainEvent T)} {state : Draining State}
    {outputs : List (DrainOutput T Error)}
    (ran :
      (drainMachine drain).run (.create initial) events =
        some (state, outputs)) :
    outputs.countP DrainOutput.isRequest ≤
      outputs.countP DrainOutput.isValue + 1 := by
  have accounts :
      state.made = outputs.countP DrainOutput.isRequest ∧
        state.due ≤ outputs.countP DrainOutput.isValue + 1 := by
    refine
      Machine.history_invariant
        (fun _ outputs state =>
          state.made = outputs.countP DrainOutput.isRequest ∧
            state.due ≤ outputs.countP DrainOutput.isValue + 1)
        (by simp [Draining.create, Draining.made, Draining.due]) ?_ ran
    rintro history outputs state event next emitted - ⟨made, due⟩ stepped
    have moved := drainMove_of_step stepped
    obtain ⟨madeAfter, dueAfter⟩ := moved.requests
    rw [List.countP_append, List.countP_append]
    refine ⟨by omega, ?_⟩
    by_cases applied : event = .sink
    · subst applied
      cases moved with
      | applied fresh =>
          simp [Draining.due, Looper.Configuration.create,
            Looper.Configuration.start, Looper.Configuration.invoke,
            Looper.Configuration.pending]
    · have further := dueAfter applied
      omega
  have notAhead := state.made_le_due
  omega

/-- When control is outside, a drain that handles a value asks for the next one
exactly if no exception has ever left a call of the source that a loop made.
Otherwise it never asks again.  In no case does it ask for more than one value
ahead of those it has handled. -/
theorem asks_iff_throwsOnlyFromFirstCall
    {events : List (DrainEvent T)} {state : Draining State}
    {outputs : List (DrainOutput T Error)}
    (ran :
      (drainMachine drain).run (.create initial) events =
        some (state, outputs)) :
    (∀ looper request done value handlers,
      state.looper = some looper →
      looper.stack = [] →
      request < looper.handles →
      done.toBool = false →
      drain.onValue value state.handlers = (.ok ⟨⟩, handlers) →
        ((∃ next,
            (drainMachine drain).step state (.answer request done value) =
              some (next, [.onValue value, .request EndOrError.FALSE])) ↔
          ThrowsOnlyFromFirstCall drain initial events)) ∧
      (¬ ThrowsOnlyFromFirstCall drain initial events →
        ∀ later final emitted,
          (drainMachine drain).run state later = some (final, emitted) →
            emitted.countP DrainOutput.isRequest = 0) ∧
      outputs.countP DrainOutput.isRequest ≤
        outputs.countP DrainOutput.isValue + 1 := by
  refine
    ⟨?_,
      fun thrown _ _ _ continued => never_asks_of_thrown ran thrown continued,
      requests_le ran⟩
  intro looper request done value handlers active outside made continues
    handled
  constructor
  · rintro ⟨next, stepped⟩
    by_contra thrown
    have silent := unasked_of_thrown ran thrown stepped
    simp [DrainOutput.isRequest] at silent
  · intro fromFirst
    obtain ⟨calls, ⟨before, looperRan⟩, sameThrown⟩ :=
      (looperRan_of_run ran).2 looper active
    have idle : looper.self = ⟨false, true⟩ :=
      (Looper.flagsFollow_of_run looperRan).idle (by simp [outside])
        (sameThrown.mpr fromFirst)
    have entered : looper.self.looperFunctionReturned = true := by
      rw [idle]
    refine ⟨⟨some looper.next.1, handlers⟩, ?_⟩
    simp [drainMachine, active, made, Drain.callback, continues, handled,
      Looper.next_of_idle entered]

def refuseOne : Drain Nat String Nat where
  onValue value :=
    if value = 1 then throw "refused" else modify (· + value)
  onDone _ := pure ⟨⟩

private theorem refuseOne_run :
    (drainMachine refuseOne).run (.create 0)
        [.sink, .answer 0 EndOrError.FALSE 1, .threw] =
      some
        (⟨some ⟨⟨false, true⟩, [], 1⟩, 0⟩,
          [.request EndOrError.FALSE, .onValue 1, .thrown "refused"]) := by
  rfl

theorem asks_iff_throwsOnlyFromFirstCall_refuseOne :
    (∃ next,
        (drainMachine refuseOne).step ⟨some ⟨⟨false, true⟩, [], 1⟩, 0⟩
            (.answer 0 EndOrError.FALSE 2) =
          some (next, [.onValue 2, .request EndOrError.FALSE])) ↔
      ThrowsOnlyFromFirstCall refuseOne 0
        [.sink, .answer 0 EndOrError.FALSE 1, .threw] :=
  (asks_iff_throwsOnlyFromFirstCall refuseOne_run).1 _ 0 EndOrError.FALSE 2 2
    rfl rfl (by decide) rfl rfl

/-- When the source catches the exception outside the call that the loop made,
the drain handles what follows without ever asking again. -/
example :
    (drainMachine refuseOne).run (.create 0)
        [.sink, .answer 0 EndOrError.FALSE 5, .answer 1 EndOrError.FALSE 1,
          .threw, .returned, .answer 1 EndOrError.FALSE 2] =
      some
        (⟨some ⟨⟨true, false⟩, [], 2⟩, 7⟩,
          [.request EndOrError.FALSE, .onValue 5, .request EndOrError.FALSE,
            .onValue 1, .thrown "refused", .onValue 2]) := by
  rfl

end DkPull.PullStream.Sinks
