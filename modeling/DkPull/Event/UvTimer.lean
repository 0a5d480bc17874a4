import DkPull.Libuv.Timer
import DkPull.Reactive.Throwing

/-!
# Timers of an event loop

`UvTimer` wraps a timer handle of libuv.  Its object lies in memory together
with its handle, so both are known by the same number, the number of timers
created before.  The object stays alive as long as its reference to itself is
set, whatever its user does.
-/

namespace DkPull.Event

open DkPull.Libuv
open DkPull.Reactive

inductive TimerType where
  | oneTime
  | repeated
  deriving DecidableEq, Repr

/-- `Timer::Options`.  What the callback does is up to the user, so it is only
recorded whether there is one. -/
structure TimerOptions where
  callback : Bool
  delay : UInt64
  type : TimerType
  deriving DecidableEq, Repr

/-- The fields of a `UvTimer` apart from its handle.  `self` tells whether the
reference to itself is set. -/
structure UvTimer where
  callback : Bool
  delay : UInt64
  type : TimerType
  self : Bool := false
  started : Bool := false
  stopped : Bool := false
  closed : Bool := false
  deriving DecidableEq, Repr

structure UvEventLoop where
  uvLoop : Loop
  timers : Nat → UvTimer
  created : Nat

/-- The checks that may fail, and the assertions of libuv. -/
inductive Failure where
  | callbackIsNull
  | alreadyStarted
  | alreadyStopped
  | isClosing
  | notStarted
  | loopCloseFailed (rc : Int)
  | uv (assertion : Assertion)
  deriving DecidableEq, Repr

/-- Code that ends the program when a check fails. -/
abbrev UvCode := Throwing Failure UvEventLoop

def check (condition : Bool) (failure : Failure) : UvCode PUnit :=
  if condition then pure ⟨⟩ else throw failure

namespace UvTimer

def write (timer : Nat) (assign : UvTimer → UvTimer) : UvCode PUnit :=
  modify fun self =>
    { self with
      timers :=
        Function.update self.timers timer (assign (self.timers timer)) }

def call (uvLoop : Loop) : UvCode PUnit :=
  modify fun self => { self with uvLoop := uvLoop }

/-- Call a function of libuv that makes assertions. -/
def callAsserting (result : Except Assertion Loop) : UvCode PUnit :=
  match result with
  | .ok uvLoop => call uvLoop
  | .error assertion => throw (.uv assertion)

/-- `new UvTimer`. -/
def construct (options : TimerOptions) : UvCode Nat := do
  check options.callback .callbackIsNull
  let timer := (← get).created
  modify fun self =>
    { uvLoop := self.uvLoop.timerInit timer
      timers :=
        Function.update self.timers timer
          { callback := options.callback
            delay := options.delay
            type := options.type }
      created := timer + 1 }
  return timer

def start (timer : Nat) : UvCode Bool := do
  let self ← get
  check (!(self.timers timer).started) .alreadyStarted
  check (!(self.timers timer).stopped) .alreadyStopped
  check (!(self.uvLoop.handles timer).isClosing) .isClosing
  write timer fun timer => { timer with started := true }
  let repeatTime :=
    if (self.timers timer).type = .repeated then 1 else 0
  let (rc, uvLoop) :=
    self.uvLoop.timerStart timer (self.timers timer).delay repeatTime
  call uvLoop
  write timer fun timer => { timer with self := true }
  return rc == 0

def create (options : TimerOptions) : UvCode Nat := do
  let timer ← construct options
  let _ ← start timer
  return timer

def close (timer : Nat) : UvCode PUnit := do
  let self ← get
  if (self.timers timer).closed || (self.uvLoop.handles timer).isClosing then
    return
  callAsserting (self.uvLoop.close timer (self.timers timer).started)

def stop (timer : Nat) : UvCode Bool := do
  let self ← get
  check (self.timers timer).started .notStarted
  check (!(self.timers timer).stopped) .alreadyStopped
  write timer fun timer => { timer with stopped := true }
  call (self.uvLoop.timerStop timer)
  close timer
  -- `uv_timer_stop` always returns 0.
  return true

def uvCloseCallback (timer : Nat) : UvCode PUnit :=
  write timer fun timer => { timer with closed := true, self := false }

/-- `UvTimer::uvTimerCallback` behind the call of the user's callback. -/
def afterCallback (timer : Nat) : UvCode PUnit := do
  if ((← get).timers timer).type = .oneTime then
    close timer

end UvTimer

end DkPull.Event
