import DkPull.PullStream.Sinks.Drain

/-!
# Reduce and collect

A `Reduce` folds a stream into an accumulator and hands the result to a
callback.  It reads the stream through a `Drain` whose handlers refer to the
`Reduce` by a weak pointer and check that it is still there.

The strong references to the `Reduce` are counted as its control block does.
They are held by the caller, by the sink functions that the caller holds, and
by the sink function that `MakeCollect` keeps for as long as its application
lasts.  A failed `CHECK` ends the program, so no event follows it.
-/

namespace DkPull.PullStream.Sinks

open DkPull.Types
open DkPull.Reactive

variable {T Accumulator : Type}

inductive CheckFailure where
  | selfIsNull
  | drainExists
  deriving DecidableEq, Repr

/-- A `Reduce` with the strong count of its control block.  `completions` lists
the invocations of `callback`. -/
structure Reduce (Accumulator : Type) where
  useCount : Nat
  accumulator : Accumulator
  completions : List (Done × Accumulator)
  deriving DecidableEq, Repr

namespace Reduce

/-- `weak_self.lock()` and the check that it succeeded. -/
def lock : Throwing CheckFailure (Reduce Accumulator) PUnit := do
  if (← get).useCount = 0 then
    throw .selfIsNull

def onValue (reducer : Accumulator → T → Accumulator) (value : T) :
    Throwing CheckFailure (Reduce Accumulator) PUnit := do
  lock
  modify fun self =>
    { self with accumulator := reducer self.accumulator value }

/-- The done handler.  `moved` is what moving from an accumulator leaves
behind. -/
def onDone (moved : Accumulator → Accumulator) (done : Done) :
    Throwing CheckFailure (Reduce Accumulator) PUnit := do
  lock
  modify fun self =>
    { self with
      completions := self.completions ++ [(done, self.accumulator)]
      accumulator := moved self.accumulator }

def drain (reducer : Accumulator → T → Accumulator)
    (moved : Accumulator → Accumulator) :
    Drain T CheckFailure (Reduce Accumulator) :=
  Drain.create (some (onValue reducer)) (some (onDone moved))

/-- A strong reference is copied. -/
def acquire (self : Reduce Accumulator) : Reduce Accumulator :=
  { self with useCount := self.useCount + 1 }

/-- A strong reference is destroyed. -/
def release (self : Reduce Accumulator) : Reduce Accumulator :=
  { self with useCount := self.useCount - 1 }

end Reduce

/-- Where the sink comes from: `Reduce::Sink` or `MakeCollect`. -/
inductive SinkKind where
  | reduce
  | collect
  deriving DecidableEq, Repr

/-- A `Reduce`, the application of its sink, and what the caller holds: strong
pointers to the `Reduce` and sink functions. -/
structure Reducing (Accumulator : Type) where
  draining : Draining (Reduce Accumulator)
  reduces : Nat
  sinks : Nat
  halted : Bool
  deriving DecidableEq, Repr

/-- `Reduce::Create`, or `MakeCollect` with its own `Reduce` inside the sink
function. -/
def Reducing.create (kind : SinkKind) (accumulator : Accumulator) :
    Reducing Accumulator where
  draining := .create ⟨1, accumulator, []⟩
  reduces := if kind = .reduce then 1 else 0
  sinks := if kind = .collect then 1 else 0
  halted := false

/-- The caller copies or drops what it holds, or makes a sink function from the
`Reduce`. -/
inductive HandleEvent where
  | copyReduce
  | dropReduce
  | makeSink
  | copySink
  | dropSink
  deriving DecidableEq, Repr

/-- The caller handles its references or applies a sink function; the rest
happens to the drain. -/
inductive ReduceEvent (T : Type) where
  | handle (event : HandleEvent)
  | apply
  | answer (request : Nat) (done : Done) (value : T)
  | returned
  | threw
  deriving DecidableEq, Repr

namespace Reducing

def self (state : Reducing Accumulator) : Reduce Accumulator :=
  state.draining.handlers

def updateSelf (state : Reducing Accumulator)
    (update : Reduce Accumulator → Reduce Accumulator) :
    Reducing Accumulator :=
  { state with draining.handlers := update state.draining.handlers }

/-- What the caller does with its references.  Only what it holds can be
copied, dropped or used. -/
def handle (state : Reducing Accumulator) :
    HandleEvent → Option (Reducing Accumulator)
  | .copyReduce =>
      if state.reduces = 0 then none
      else
        some
          { state.updateSelf Reduce.acquire with
            reduces := state.reduces + 1 }
  | .dropReduce =>
      if state.reduces = 0 then none
      else
        some
          { state.updateSelf Reduce.release with
            reduces := state.reduces - 1 }
  | .makeSink =>
      if state.reduces = 0 then none
      else
        some
          { state.updateSelf Reduce.acquire with
            sinks := state.sinks + 1 }
  | .copySink =>
      if state.sinks = 0 then none
      else
        some
          { state.updateSelf Reduce.acquire with
            sinks := state.sinks + 1 }
  | .dropSink =>
      if state.sinks = 0 then none
      else
        some
          { state.updateSelf Reduce.release with
            sinks := state.sinks - 1 }

/-- The application of the sink is the innermost call. -/
def applicationInnermost (state : Reducing Accumulator) : Bool :=
  (state.draining.looper.bind fun looper => looper.stack.head?) =
    some .start

/-- The program goes on with the drain, unless a check failed. -/
def follow (state : Reducing Accumulator)
    (result :
      Draining (Reduce Accumulator) ×
        List (DrainOutput T CheckFailure)) :
    Reducing Accumulator × List (DrainOutput T CheckFailure) :=
  ({ state with
      draining := result.1
      halted := result.2.any DrainOutput.isThrown },
    result.2)

/-- The application of a collecting sink makes a sink function of the
`Reduce`. -/
def enter (kind : SinkKind) (state : Reducing Accumulator) :
    Reducing Accumulator :=
  if kind = .collect then state.updateSelf Reduce.acquire else state

/-- The sink function made by the application of a collecting sink is destroyed
when the application is over. -/
def leave (kind : SinkKind) (isOver : Bool) (state : Reducing Accumulator) :
    Reducing Accumulator :=
  if kind = .collect && isOver then state.updateSelf Reduce.release else state

def apply (kind : SinkKind) (state : Reducing Accumulator) :
    Reducing Accumulator × List (DrainOutput T CheckFailure) :=
  let state := state.enter kind
  if state.draining.looper.isSome then
    ({ state with halted := true }, [.thrown .drainExists])
  else state.follow (Drain.sink state.draining)

/-- A call of the source ends, and with it perhaps the application. -/
def resume (kind : SinkKind) (state : Reducing Accumulator)
    (result :
      Option
        (Draining (Reduce Accumulator) ×
          List (DrainOutput T CheckFailure))) :
    Option (Reducing Accumulator × List (DrainOutput T CheckFailure)) :=
  result.map fun result =>
    let (next, emitted) := state.follow result
    (next.leave kind state.applicationInnermost, emitted)

end Reducing

def reduceMachine (kind : SinkKind) (reducer : Accumulator → T → Accumulator)
    (moved : Accumulator → Accumulator) :
    Machine (Reducing Accumulator) (ReduceEvent T)
      (DrainOutput T CheckFailure) where
  step state event :=
    let drained := (drainMachine (Reduce.drain reducer moved)).step
    if state.halted then none
    else
      match event with
      | .handle event => (state.handle event).map fun next => (next, [])
      | .apply =>
          if state.sinks = 0 then none else some (state.apply kind)
      | .answer request done value =>
          (drained state.draining (.answer request done value)).map
            state.follow
      | .returned => state.resume kind (drained state.draining .returned)
      | .threw => state.resume kind (drained state.draining .threw)

def pushBack (vector : List T) (v : T) : List T :=
  vector ++ [v]

/-- `MakeCollect` is a `Reduce` over a growing list. -/
def makeCollect (moved : List T → List T) :
    Machine (Reducing (List T)) (ReduceEvent T)
      (DrainOutput T CheckFailure) :=
  reduceMachine .collect pushBack moved

theorem Reduce.lock_run_of_held
    {self : Reduce Accumulator} (held : 0 < self.useCount) :
    Reduce.lock self = (.ok ⟨⟩, self) := by
  have present : self.useCount ≠ 0 := Nat.ne_of_gt held
  simp [Reduce.lock, present]

theorem Reduce.lock_run_of_gone
    {self : Reduce Accumulator} (gone : self.useCount = 0) :
    Reduce.lock self = (.error .selfIsNull, self) := by
  simp [Reduce.lock, gone]

variable {reducer : Accumulator → T → Accumulator}
  {moved : Accumulator → Accumulator}

/-- A done answer reaches the callback while the `Reduce` is referred to. -/
theorem Reduce.callback_done_of_held
    {self : Reduce Accumulator} (held : 0 < self.useCount) {done : Done}
    (ends : done.toBool = true) (value : T) (looper : Looper.Configuration) :
    (Reduce.drain reducer moved).callback done value looper self =
      (⟨some looper,
        { self with
          completions := self.completions ++ [(done, self.accumulator)]
          accumulator := moved self.accumulator }⟩,
        [.onDone done]) := by
  simp [Drain.callback, ends, Reduce.drain, Drain.create, Reduce.onDone,
    Reduce.lock_run_of_held held]

/-- A value is folded into the accumulator while the `Reduce` is referred
to. -/
theorem Reduce.callback_value_of_held
    {self : Reduce Accumulator} (held : 0 < self.useCount) {done : Done}
    (continues : done.toBool = false) (value : T)
    (looper : Looper.Configuration) :
    (Reduce.drain reducer moved).callback done value looper self =
      (⟨some looper.next.1,
        { self with accumulator := reducer self.accumulator value }⟩,
        .onValue value :: looper.next.2.map requested) := by
  simp [Drain.callback, continues, Reduce.drain, Drain.create,
    Reduce.onValue, Reduce.lock_run_of_held held]

/-- Any answer fails the check once the `Reduce` is gone. -/
theorem Reduce.callback_of_gone
    {self : Reduce Accumulator} (gone : self.useCount = 0) (done : Done)
    (value : T) (looper : Looper.Configuration) :
    (Reduce.drain reducer moved).callback done value looper self =
      (⟨some looper, self⟩,
        [if done.toBool then .onDone done else .onValue value,
          .thrown .selfIsNull]) := by
  cases ends : done.toBool <;>
    simp [Drain.callback, ends, Reduce.drain, Drain.create, Reduce.onValue,
      Reduce.onDone, Reduce.lock_run_of_gone gone]

inductive ReduceStep
    (kind : SinkKind) (reducer : Accumulator → T → Accumulator)
    (moved : Accumulator → Accumulator) (state : Reducing Accumulator) :
    ReduceEvent T → Reducing Accumulator →
      List (DrainOutput T CheckFailure) → Prop where
  | handled (event : HandleEvent) (next : Reducing Accumulator)
      (handles : state.handle event = some next) :
      ReduceStep kind reducer moved state (.handle event) next []
  | applied (held : 0 < state.sinks)
      (fresh : state.draining.looper = none) :
      ReduceStep kind reducer moved state .apply
        { state.enter kind with
          draining.looper := some Looper.Configuration.create.start.1 }
        [.request EndOrError.FALSE]
  | refused (held : 0 < state.sinks) (looper : Looper.Configuration)
      (active : state.draining.looper = some looper) :
      ReduceStep kind reducer moved state .apply
        { state.enter kind with halted := true } [.thrown .drainExists]
  | failed (looper : Looper.Configuration)
      (active : state.draining.looper = some looper)
      (request : Nat) (done : Done) (value : T)
      (made : request < looper.handles) (gone : state.self.useCount = 0) :
      ReduceStep kind reducer moved state (.answer request done value)
        { state with halted := true }
        [if done.toBool then .onDone done else .onValue value,
          .thrown .selfIsNull]
  | ended (looper : Looper.Configuration)
      (active : state.draining.looper = some looper)
      (request : Nat) (done : Done) (value : T)
      (made : request < looper.handles) (held : 0 < state.self.useCount)
      (ends : done.toBool = true) :
      ReduceStep kind reducer moved state (.answer request done value)
        { state with
          draining.handlers :=
            { state.self with
              completions :=
                state.self.completions ++ [(done, state.self.accumulator)]
              accumulator := moved state.self.accumulator } }
        [.onDone done]
  | continued (looper : Looper.Configuration)
      (active : state.draining.looper = some looper)
      (request : Nat) (done : Done) (value : T)
      (made : request < looper.handles) (held : 0 < state.self.useCount)
      (continues : done.toBool = false) :
      ReduceStep kind reducer moved state (.answer request done value)
        { state with
          draining :=
            ⟨some looper.next.1,
              { state.self with
                accumulator := reducer state.self.accumulator value }⟩ }
        (.onValue value :: looper.next.2.map requested)
  | returned (looper follower : Looper.Configuration)
      (active : state.draining.looper = some looper)
      (invoked : List Looper.LooperOutput)
      (popped : looper.returned = some (follower, invoked)) :
      ReduceStep kind reducer moved state .returned
        ({ state with draining.looper := some follower }.leave kind
          state.applicationInnermost)
        (invoked.map requested)
  | threw (looper follower : Looper.Configuration)
      (active : state.draining.looper = some looper)
      (invoked : List Looper.LooperOutput)
      (popped : looper.threw = some (follower, invoked)) :
      ReduceStep kind reducer moved state .threw
        ({ state with draining.looper := some follower }.leave kind
          state.applicationInnermost)
        (invoked.map requested)

theorem reduceMachine_step_of_live
    {kind : SinkKind} {state : Reducing Accumulator}
    (live : state.halted = false) (event : ReduceEvent T) :
    (reduceMachine kind reducer moved).step state event =
      match event with
      | .handle event => (state.handle event).map fun next => (next, [])
      | .apply =>
          if state.sinks = 0 then none else some (state.apply kind)
      | .answer request done value =>
          ((drainMachine (Reduce.drain reducer moved)).step state.draining
            (.answer request done value)).map state.follow
      | .returned =>
          state.resume kind
            ((drainMachine (Reduce.drain reducer moved)).step state.draining
              .returned)
      | .threw =>
          state.resume kind
            ((drainMachine (Reduce.drain reducer moved)).step state.draining
              .threw) := by
  simp [reduceMachine, live]

private theorem reduceStep_of_answer
    {kind : SinkKind} {state next : Reducing Accumulator}
    (live : state.halted = false) {request : Nat} {done : Done} {value : T}
    {emitted : List (DrainOutput T CheckFailure)}
    (stepped :
      ((drainMachine (Reduce.drain reducer moved)).step state.draining
        (.answer request done value)).map state.follow =
          some (next, emitted)) :
    ReduceStep kind reducer moved state (.answer request done value) next
      emitted := by
  rcases state with ⟨⟨application, self⟩, reduces, sinks, halted⟩
  cases live
  cases application with
  | none =>
      simp [drainMachine] at stepped
  | some looper =>
      by_cases made : request < looper.handles
      · simp only [drainMachine, made, if_true, Option.map_some,
          Option.some.injEq] at stepped
        rcases Nat.eq_zero_or_pos self.useCount with gone | held
        · rw [Reduce.callback_of_gone gone, Reducing.follow] at stepped
          simp only [List.any_cons, DrainOutput.isThrown, Bool.true_or,
            Bool.or_true] at stepped
          cases stepped
          exact .failed looper rfl request done value made gone
        · cases ends : done.toBool with
          | true =>
              rw [Reduce.callback_done_of_held held ends] at stepped
              cases stepped
              exact .ended looper rfl request done value made held ends
          | false =>
              rw [Reduce.callback_value_of_held held ends, Reducing.follow,
                List.any_cons, any_isThrown_requested] at stepped
              cases stepped
              exact .continued looper rfl request done value made held ends
      · simp [drainMachine, made] at stepped

private theorem reduceStep_of_apply
    {kind : SinkKind} {state next : Reducing Accumulator}
    (live : state.halted = false)
    {emitted : List (DrainOutput T CheckFailure)}
    (stepped :
      (if state.sinks = 0 then none else some (state.apply kind)) =
        some (next, emitted)) :
    ReduceStep kind reducer moved state .apply next emitted := by
  rcases state with ⟨⟨application, self⟩, reduces, sinks, halted⟩
  cases live
  by_cases noSink : sinks = 0
  · simp [noSink] at stepped
  · have held : 0 < sinks := Nat.pos_of_ne_zero noSink
    rw [if_neg noSink] at stepped
    cases application with
    | none =>
        cases kind <;> cases stepped <;> exact .applied held rfl
    | some looper =>
        cases kind <;> cases stepped <;> exact .refused held looper rfl

private theorem resume_drain
    {kind : SinkKind} {state next : Reducing Accumulator}
    (live : state.halted = false)
    {result : Option (Looper.Configuration × List Looper.LooperOutput)}
    {emitted : List (DrainOutput T CheckFailure)}
    (resumed :
      state.resume kind (Drain.resume state.draining result) =
        some (next, emitted)) :
    ∃ follower invoked,
      result = some (follower, invoked) ∧
        next =
          { state with draining.looper := some follower }.leave kind
            state.applicationInnermost ∧
        emitted = invoked.map requested := by
  rcases state with ⟨⟨application, self⟩, reduces, sinks, halted⟩
  cases live
  cases result with
  | none =>
      cases resumed
  | some result =>
      obtain ⟨follower, invoked⟩ := result
      simp only [Reducing.resume, Drain.resume, Option.map_some,
        Reducing.follow, any_isThrown_requested, Option.some.injEq,
        Prod.mk.injEq] at resumed
      exact ⟨follower, invoked, rfl, resumed.1.symm, resumed.2.symm⟩

theorem reduceStep_of_step
    {kind : SinkKind} {state next : Reducing Accumulator}
    {event : ReduceEvent T} {emitted : List (DrainOutput T CheckFailure)}
    (stepped :
      (reduceMachine kind reducer moved).step state event =
        some (next, emitted)) :
    state.halted = false ∧
      ReduceStep kind reducer moved state event next emitted := by
  cases live : state.halted with
  | true =>
      simp [reduceMachine, live] at stepped
  | false =>
      refine ⟨rfl, ?_⟩
      rw [reduceMachine_step_of_live live] at stepped
      cases event with
      | handle event =>
          obtain ⟨changed, handles, same⟩ := Option.map_eq_some_iff.mp stepped
          cases same
          exact .handled event next handles
      | apply =>
          exact reduceStep_of_apply live stepped
      | answer request done value =>
          exact reduceStep_of_answer live stepped
      | returned =>
          cases active : state.draining.looper with
          | none =>
              simp [drainMachine, active, Reducing.resume] at stepped
          | some looper =>
              simp only [drainMachine, active] at stepped
              obtain ⟨follower, invoked, popped, rfl, rfl⟩ :=
                resume_drain live stepped
              exact .returned looper follower active invoked popped
      | threw =>
          cases active : state.draining.looper with
          | none =>
              simp [drainMachine, active, Reducing.resume] at stepped
          | some looper =>
              simp only [drainMachine, active] at stepped
              obtain ⟨follower, invoked, popped, rfl, rfl⟩ :=
                resume_drain live stepped
              exact .threw looper follower active invoked popped

end DkPull.PullStream.Sinks
