import DkPull.Looper.Looper
import DkPull.Reactive.Throwing
import DkPull.Types.EndOrError

/-!
# The drain

A `Drain` reads a source to its end.  Its sink runs a looper whose function
calls the source with a fresh callback; the callback hands a value to `onValue`
and calls `next()`, or hands a termination to `onDone`.

An invocation of the looper function is the same thing as a call of the source.
The source may invoke the callback of a request before this call returns or at
any later time, so both the returns and the answers are events.
-/

namespace DkPull.PullStream.Sinks

open DkPull.Types
open DkPull.Reactive

universe u

variable {T : Type} {Error State : Type u}

/-- The two handlers of a `Drain`.  They work on a state of their own and may
throw. -/
structure Drain (T : Type) (Error State : Type u) where
  onValue : T → Throwing Error State PUnit
  onDone : Done → Throwing Error State PUnit

/-- `Drain::Create`.  A handler that is null does nothing. -/
def Drain.create
    (fn : Option (T → Throwing Error State PUnit))
    (done : Option (Done → Throwing Error State PUnit)) :
    Drain T Error State where
  onValue := fn.getD fun _ => pure ⟨⟩
  onDone := done.getD fun _ => pure ⟨⟩

/-- The looper of the application of the sink, once there is one, and the state
of the handlers. -/
structure Draining (State : Type u) where
  looper : Option Looper.Configuration
  handlers : State
  deriving DecidableEq, Repr

def Draining.create (handlers : State) : Draining State where
  looper := none
  handlers := handlers

/-- The sink is applied to the source; the source invokes the callback of the
request number `request`; its innermost call returns or throws. -/
inductive DrainEvent (T : Type) where
  | sink
  | answer (request : Nat) (done : Done) (value : T)
  | returned
  | threw
  deriving DecidableEq, Repr

/-- The drain calls the source or one of its handlers, or the callback of a
request throws. -/
inductive DrainOutput (T : Type) (Error : Type u) where
  | request (abort : Abort)
  | onValue (value : T)
  | onDone (done : Done)
  | thrown (err : Error)
  deriving DecidableEq, Repr

def DrainOutput.isThrown : DrainOutput T Error → Bool
  | .thrown _ => true
  | _ => false

/-- The body of the looper function. -/
def requested : Looper.LooperOutput → DrainOutput T Error
  | .invoked _ => .request EndOrError.FALSE

@[simp]
theorem requested_invoked (handle : Nat) :
    (requested (.invoked handle) : DrainOutput T Error) =
      .request EndOrError.FALSE :=
  rfl

theorem thrown_notMem_requested
    (err : Error) (invoked : List Looper.LooperOutput) :
    (.thrown err : DrainOutput T Error) ∉ invoked.map requested := by
  intro member
  obtain ⟨_, _, same⟩ := List.mem_map.mp member
  cases same

theorem any_isThrown_requested (invoked : List Looper.LooperOutput) :
    (invoked.map requested).any
      (DrainOutput.isThrown : DrainOutput T Error → Bool) = false := by
  rw [List.any_map, List.any_eq_false]
  intro output _
  exact Bool.false_ne_true

namespace Drain

/-- The function returned by `Drain::Sink`, up to the call of the source. -/
def sink (state : Draining State) :
    Draining State × List (DrainOutput T Error) :=
  let (looper, invoked) := Looper.Configuration.create.start
  ({ state with looper := some looper }, invoked.map requested)

/-- The callback that the looper function passes to the source. -/
def callback (drain : Drain T Error State) (done : Done) (value : T)
    (looper : Looper.Configuration) (handlers : State) :
    Draining State × List (DrainOutput T Error) :=
  if done.toBool then
    match drain.onDone done handlers with
    | (.ok _, next) => (⟨some looper, next⟩, [.onDone done])
    | (.error err, next) =>
        (⟨some looper, next⟩, [.onDone done, .thrown err])
  else
    match drain.onValue value handlers with
    | (.ok _, next) =>
        let (looper, invoked) := looper.next
        (⟨some looper, next⟩, .onValue value :: invoked.map requested)
    | (.error err, next) =>
        (⟨some looper, next⟩, [.onValue value, .thrown err])

def resume (state : Draining State)
    (result : Option (Looper.Configuration × List Looper.LooperOutput)) :
    Option (Draining State × List (DrainOutput T Error)) :=
  result.map fun (looper, invoked) =>
    ({ state with looper := some looper }, invoked.map requested)

end Drain

/-- One application of the sink of a drain.  Only callbacks of requests that
have been made can be invoked. -/
def drainMachine (drain : Drain T Error State) :
    Machine (Draining State) (DrainEvent T) (DrainOutput T Error) where
  step state event :=
    match state.looper, event with
    | none, .sink => some (Drain.sink state)
    | some looper, .answer request done value =>
        if request < looper.handles then
          some (drain.callback done value looper state.handlers)
        else none
    | some looper, .returned => Drain.resume state looper.returned
    | some looper, .threw => Drain.resume state looper.threw
    | _, _ => none

structure Drain.NonThrowing (drain : Drain T Error State) : Prop where
  onValue : ∀ value handlers, (drain.onValue value handlers).1 = .ok ⟨⟩
  onDone : ∀ done handlers, (drain.onDone done handlers).1 = .ok ⟨⟩

theorem Drain.callback_done
    {drain : Drain T Error State} (calm : drain.NonThrowing)
    {done : Done} (ends : done.toBool = true) (value : T)
    (looper : Looper.Configuration) (handlers : State) :
    drain.callback done value looper handlers =
      (⟨some looper, (drain.onDone done handlers).2⟩, [.onDone done]) := by
  have ok := calm.onDone done handlers
  rcases handled : drain.onDone done handlers with ⟨result, next⟩
  rw [handled] at ok
  cases ok
  simp [Drain.callback, ends, handled]

theorem Drain.callback_value
    {drain : Drain T Error State} (calm : drain.NonThrowing)
    {done : Done} (continues : done.toBool = false) (value : T)
    (looper : Looper.Configuration) (handlers : State) :
    drain.callback done value looper handlers =
      (⟨some looper.next.1, (drain.onValue value handlers).2⟩,
        .onValue value :: looper.next.2.map requested) := by
  have ok := calm.onValue value handlers
  rcases handled : drain.onValue value handlers with ⟨result, next⟩
  rw [handled] at ok
  cases ok
  simp [Drain.callback, continues, handled]

/-- The kinds of steps of a drain whose handlers do not throw.  Where the
looper is involved, the step says which step the looper makes. -/
inductive DrainStep (drain : Drain T Error State) (state : Draining State) :
    DrainEvent T → Draining State → List (DrainOutput T Error) → Prop where
  | applied (fresh : state.looper = none) :
      DrainStep drain state .sink
        ⟨some Looper.Configuration.create.start.1, state.handlers⟩
        [.request EndOrError.FALSE]
  | ended (looper : Looper.Configuration)
      (active : state.looper = some looper)
      (request : Nat) (done : Done) (value : T)
      (made : request < looper.handles) (ends : done.toBool = true) :
      DrainStep drain state (.answer request done value)
        ⟨some looper, (drain.onDone done state.handlers).2⟩
        [.onDone done]
  | continued (looper follower : Looper.Configuration)
      (active : state.looper = some looper)
      (request : Nat) (done : Done) (value : T)
      (made : request < looper.handles) (continues : done.toBool = false)
      (invoked : List Looper.LooperOutput)
      (called :
        Looper.looperMachine.step looper (.next request) =
          some (follower, invoked)) :
      DrainStep drain state (.answer request done value)
        ⟨some follower, (drain.onValue value state.handlers).2⟩
        (.onValue value :: invoked.map requested)
  | returned (looper follower : Looper.Configuration)
      (active : state.looper = some looper)
      (invoked : List Looper.LooperOutput)
      (ended :
        Looper.looperMachine.step looper .returned =
          some (follower, invoked)) :
      DrainStep drain state .returned
        { state with looper := some follower } (invoked.map requested)
  | threw (looper follower : Looper.Configuration)
      (active : state.looper = some looper)
      (invoked : List Looper.LooperOutput)
      (ended :
        Looper.looperMachine.step looper .threw =
          some (follower, invoked)) :
      DrainStep drain state .threw
        { state with looper := some follower } (invoked.map requested)

theorem drainStep_of_step
    {drain : Drain T Error State} (calm : drain.NonThrowing)
    {state next : Draining State} {event : DrainEvent T}
    {emitted : List (DrainOutput T Error)}
    (stepped : (drainMachine drain).step state event = some (next, emitted)) :
    DrainStep drain state event next emitted := by
  cases active : state.looper with
  | none =>
      cases event with
      | sink =>
          simp only [drainMachine, active] at stepped
          cases stepped
          exact .applied active
      | answer request done value =>
          simp [drainMachine, active] at stepped
      | returned =>
          simp [drainMachine, active] at stepped
      | threw =>
          simp [drainMachine, active] at stepped
  | some looper =>
      cases event with
      | sink =>
          simp [drainMachine, active] at stepped
      | answer request done value =>
          simp only [drainMachine, active] at stepped
          split at stepped
          · rename_i made
            cases ends : done.toBool with
            | true =>
                rw [Drain.callback_done calm ends] at stepped
                cases stepped
                exact .ended looper active request done value made ends
            | false =>
                rw [Drain.callback_value calm ends] at stepped
                cases stepped
                refine
                  .continued looper _ active request done value made ends _ ?_
                simp [Looper.looperMachine, made]
          · cases stepped
      | returned =>
          simp only [drainMachine, active, Drain.resume,
            Option.map_eq_some_iff, Prod.exists] at stepped
          obtain ⟨follower, invoked, ended, same⟩ := stepped
          cases same
          exact .returned looper follower active invoked ended
      | threw =>
          simp only [drainMachine, active, Drain.resume,
            Option.map_eq_some_iff, Prod.exists] at stepped
          obtain ⟨follower, invoked, ended, same⟩ := stepped
          cases same
          exact .threw looper follower active invoked ended

end DkPull.PullStream.Sinks
