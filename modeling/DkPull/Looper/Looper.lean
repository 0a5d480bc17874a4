import DkPull.Reactive.Machine

/-!
# The looper

`Looper` calls its looper function again each time the function, or anyone who
kept the handle it was given, calls `next()`.  Two flags turn calls that come
while the function is running into further passes of one loop.

The looper function is arbitrary code.  What it does between being entered and
being left is an arbitrary sequence of events of the machine below, and so is
what happens outside.  The call stack is explicit: it holds the invocations of
the looper function that have been entered and not yet left, innermost first.
-/

namespace DkPull

open DkPull.Reactive

structure Looper where
  nextCalled : Bool := false
  looperFunctionReturned : Bool := true
  deriving DecidableEq, Repr

namespace Looper

/-- Who entered an invocation of the looper function: `Start()`, or the loop in
a call of `next()`. -/
inductive Activation where
  | start
  | loop
  deriving DecidableEq, Repr

/-- A looper, the invocations of its function that are active, and the number
of handles made so far.  Each invocation is given a fresh handle, so this is
also the number of invocations. -/
structure Configuration where
  self : Looper
  stack : List Activation
  handles : Nat
  deriving DecidableEq, Repr

def Configuration.create : Configuration where
  self := {}
  stack := []
  handles := 0

/-- What happens around the looper: someone calls `Start()` or a handle, and
the innermost invocation of the looper function returns or throws.  The handle
called is the one given to the invocation number `origin`. -/
inductive LooperEvent where
  | start
  | next (origin : Nat)
  | returned
  | threw
  deriving DecidableEq, Repr

/-- The looper function is entered with the handle of the given number. -/
inductive LooperOutput where
  | invoked (handle : Nat)
  deriving DecidableEq, Repr

namespace Configuration

/-- `looperFunction(makeNext())`, up to the first statement of the function. -/
def invoke (config : Configuration) (activation : Activation) :
    Configuration × List LooperOutput :=
  ({ config with
      stack := activation :: config.stack
      handles := config.handles + 1 },
    [.invoked config.handles])

def start (config : Configuration) : Configuration × List LooperOutput :=
  config.invoke .start

/-- `while (nextCalled)`: another pass, or past the end of the loop. -/
def whileNextCalled (config : Configuration) :
    Configuration × List LooperOutput :=
  if config.self.nextCalled then
    { config with self.nextCalled := false }.invoke .loop
  else
    ({ config with self.looperFunctionReturned := true }, [])

/-- The lambda returned by `makeNext`. -/
def next (config : Configuration) : Configuration × List LooperOutput :=
  let config := { config with self.nextCalled := true }
  if !config.self.looperFunctionReturned then
    (config, [])
  else
    { config with self.looperFunctionReturned := false }.whileNextCalled

/-- The innermost invocation returns to the code that entered it. -/
def returned (config : Configuration) :
    Option (Configuration × List LooperOutput) :=
  match config.stack with
  | [] => none
  | .start :: rest => some ({ config with stack := rest }, [])
  | .loop :: rest => some { config with stack := rest }.whileNextCalled

/-- An exception leaves the innermost invocation, and with it the code that
entered the invocation. -/
def threw (config : Configuration) :
    Option (Configuration × List LooperOutput) :=
  match config.stack with
  | [] => none
  | _ :: rest => some ({ config with stack := rest }, [])

end Configuration

/-- The looper together with the code around it.  Only handles that have been
made can be called. -/
def looperMachine : Machine Configuration LooperEvent LooperOutput where
  step config
    | .start => some config.start
    | .next origin => if origin < config.handles then some config.next else none
    | .returned => config.returned
    | .threw => config.threw

/-- A call of `next()` while an earlier one is looping is only noted. -/
theorem next_of_looping
    {config : Configuration}
    (looping : config.self.looperFunctionReturned = false) :
    config.next = ({ config with self := ⟨true, false⟩ }, []) := by
  simp [Configuration.next, looping]

/-- Any other call of `next()` enters the looper function at once. -/
theorem next_of_idle
    {config : Configuration}
    (idle : config.self.looperFunctionReturned = true) :
    config.next =
      ({ self := ⟨false, false⟩
         stack := .loop :: config.stack
         handles := config.handles + 1 },
        [.invoked config.handles]) := by
  simp [Configuration.next, Configuration.whileNextCalled,
    Configuration.invoke, idle]

/-- A pass of the loop that returns after a call of `next()` is followed by
another pass. -/
theorem whileNextCalled_of_called
    {config : Configuration} (called : config.self.nextCalled = true) :
    config.whileNextCalled =
      ({ self := { config.self with nextCalled := false }
         stack := .loop :: config.stack
         handles := config.handles + 1 },
        [.invoked config.handles]) := by
  simp [Configuration.whileNextCalled, Configuration.invoke, called]

private theorem whileNextCalled_of_uncalled
    {config : Configuration} (uncalled : config.self.nextCalled = false) :
    config.whileNextCalled =
      ({ config with self := ⟨false, true⟩ }, []) := by
  simp [Configuration.whileNextCalled, uncalled]

/-- The kinds of steps, each with the state behind it and the invocations it
makes. -/
inductive LooperStep (config : Configuration) :
    LooperEvent → Configuration → List LooperOutput → Prop where
  | started :
      LooperStep config .start
        { config with
          stack := .start :: config.stack
          handles := config.handles + 1 }
        [.invoked config.handles]
  | noted (origin : Nat) (made : origin < config.handles)
      (looping : config.self.looperFunctionReturned = false) :
      LooperStep config (.next origin)
        { config with self := ⟨true, false⟩ } []
  | entered (origin : Nat) (made : origin < config.handles)
      (idle : config.self.looperFunctionReturned = true) :
      LooperStep config (.next origin)
        { self := ⟨false, false⟩
          stack := .loop :: config.stack
          handles := config.handles + 1 }
        [.invoked config.handles]
  | startReturned (rest : List Activation)
      (innermost : config.stack = .start :: rest) :
      LooperStep config .returned { config with stack := rest } []
  | repeated (rest : List Activation)
      (innermost : config.stack = .loop :: rest)
      (called : config.self.nextCalled = true) :
      LooperStep config .returned
        { self := { config.self with nextCalled := false }
          stack := .loop :: rest
          handles := config.handles + 1 }
        [.invoked config.handles]
  | finished (rest : List Activation)
      (innermost : config.stack = .loop :: rest)
      (uncalled : config.self.nextCalled = false) :
      LooperStep config .returned
        { config with self := ⟨false, true⟩, stack := rest } []
  | unwound (activation : Activation) (rest : List Activation)
      (innermost : config.stack = activation :: rest) :
      LooperStep config .threw { config with stack := rest } []

theorem looperStep_iff
    {config target : Configuration} {event : LooperEvent}
    {outputs : List LooperOutput} :
    looperMachine.step config event = some (target, outputs) ↔
      LooperStep config event target outputs := by
  constructor
  · intro stepped
    cases event with
    | start =>
        cases stepped
        exact .started
    | next origin =>
        simp only [looperMachine] at stepped
        split at stepped
        · rename_i made
          cases idle : config.self.looperFunctionReturned with
          | false =>
              rw [next_of_looping idle] at stepped
              cases stepped
              exact .noted origin made idle
          | true =>
              rw [next_of_idle idle] at stepped
              cases stepped
              exact .entered origin made idle
        · cases stepped
    | returned =>
        simp only [looperMachine, Configuration.returned] at stepped
        split at stepped
        · cases stepped
        · rename_i rest innermost
          cases stepped
          exact .startReturned rest innermost
        · rename_i rest innermost
          let popped := { config with stack := rest }
          cases called : popped.self.nextCalled with
          | true =>
              rw [whileNextCalled_of_called called] at stepped
              cases stepped
              exact .repeated rest innermost called
          | false =>
              rw [whileNextCalled_of_uncalled called] at stepped
              cases stepped
              exact .finished rest innermost called
    | threw =>
        simp only [looperMachine, Configuration.threw] at stepped
        split at stepped
        · cases stepped
        · rename_i activation rest innermost
          cases stepped
          exact .unwound activation rest innermost
  · intro stepped
    cases stepped with
    | started =>
        rfl
    | noted origin made looping =>
        simp [looperMachine, made, next_of_looping looping]
    | entered origin made idle =>
        simp [looperMachine, made, next_of_idle idle]
    | startReturned rest innermost =>
        simp [looperMachine, Configuration.returned, innermost]
    | repeated rest innermost called =>
        simp [looperMachine, Configuration.returned, innermost,
          Configuration.whileNextCalled, Configuration.invoke, called]
    | finished rest innermost uncalled =>
        simp [looperMachine, Configuration.returned, innermost,
          Configuration.whileNextCalled, uncalled]
    | unwound activation rest innermost =>
        simp [looperMachine, Configuration.threw, innermost]

theorem returned_possible
    {config : Configuration} (active : config.stack ≠ []) :
    ∃ target outputs,
      looperMachine.step config .returned = some (target, outputs) := by
  obtain ⟨activation, rest, innermost⟩ := List.exists_cons_of_ne_nil active
  cases activation with
  | start =>
      exact ⟨_, _, looperStep_iff.mpr (.startReturned rest innermost)⟩
  | loop =>
      cases called : config.self.nextCalled with
      | true =>
          exact ⟨_, _, looperStep_iff.mpr (.repeated rest innermost called)⟩
      | false =>
          exact ⟨_, _, looperStep_iff.mpr (.finished rest innermost called)⟩

end Looper

end DkPull
