import DkPull.Event.UvTimer
import DkPull.Reactive.Machine

/-!
# The event loop

`UvEventLoop::Run` calls `uv_run` as long as the loop is alive.  The machine
below goes through this code one small step at a time.  In between the user
creates and stops timers, from outside and from the callbacks of timers, and
the clock is read.  How long libuv waits for events is left to the clock.
-/

namespace DkPull.Event

open DkPull.Libuv
open DkPull.Reactive

namespace UvEventLoop

def init (hrtime : UInt64) : UvEventLoop where
  uvLoop := Loop.init hrtime
  timers := fun _ => { callback := false, delay := 0, type := .oneTime }
  created := 0

def createTimer (options : TimerOptions) : UvCode Nat :=
  UvTimer.create options

def intervalOptions (ms : UInt64) (cb : Bool) : TimerOptions where
  callback := cb
  delay := ms
  type := .repeated

def setInterval (ms : UInt64) (cb : Bool) : UvCode Nat :=
  createTimer (intervalOptions ms cb)

def timeoutOptions (ms : UInt64) (cb : Bool) : TimerOptions where
  callback := cb
  delay := ms
  type := .oneTime

def setTimeout (ms : UInt64) (cb : Bool) : UvCode Nat :=
  createTimer (timeoutOptions ms cb)

/-- `~UvEventLoop`. -/
def destroy : UvCode PUnit := do
  let rc := (← get).uvLoop.loopClose
  check (rc == 0) (.loopCloseFailed rc)

/-- One handle in `uv__run_closing_handles`. -/
def finishClose (handle : Nat) : UvCode PUnit := do
  let closeCb := ((← get).uvLoop.handles handle).closeCb
  UvTimer.callAsserting ((← get).uvLoop.finishClose handle)
  if closeCb then
    UvTimer.uvCloseCallback handle

end UvEventLoop

/-- Where control is: outside `Run`, at the condition of its loop, or inside
`uv_run`.  There the timers are run once at the beginning and once more at the
end, and in between libuv polls and works off the handles that are closing. -/
inductive Position where
  | outside
  | whileAlive
  | updateTime
  | runTimers (last : Bool)
  | inCallback (timer : Nat) (last : Bool)
  | polling
  | closingHandles (handles : List Nat)
  | updateTimeAgain
  | aborted
  deriving DecidableEq, Repr

/-- An event loop and where control is. -/
structure Running where
  self : UvEventLoop
  position : Position

/-- The user creates a timer, stops one or calls `Run`; the clock is read; a
callback of the user returns; or the loop goes on by itself. -/
inductive TimerEvent where
  | create (options : TimerOptions)
  | stop (timer : Nat)
  | run
  | clock (hrtime : UInt64)
  | returned
  | proceed
  deriving DecidableEq, Repr

/-- What the user gets to see, with the loop time. -/
inductive TimerOutput where
  | created (timer : Nat) (time : UInt64)
  | stopped (result : Bool)
  | invoked (timer : Nat) (time : UInt64)
  | runReturned
  | failed (failure : Failure)
  deriving DecidableEq, Repr

namespace Running

def init (hrtime : UInt64) : Running where
  self := UvEventLoop.init hrtime
  position := .outside

def userRuns (state : Running) : Bool :=
  match state.position with
  | .outside => true
  | .inCallback _ _ => true
  | _ => false

/-- Run code and go on at a position, unless a check fails. -/
def perform {Result : Type}
    (state : Running) (code : UvCode Result) (position : Position)
    (outputs : Result → List TimerOutput) :
    Running × List TimerOutput :=
  match code state.self with
  | (.ok result, next) => (⟨next, position⟩, outputs result)
  | (.error failure, next) => (⟨next, .aborted⟩, [.failed failure])

def readClock (state : Running) (hrtime : UInt64) :
    Option (Running × List TimerOutput) :=
  let uvLoop := state.self.uvLoop.updateTime hrtime
  match state.position with
  | .updateTime =>
      some (⟨{ state.self with uvLoop := uvLoop }, .runTimers false⟩, [])
  | .polling =>
      some
        (⟨{ state.self with uvLoop := { uvLoop with closingHandles := [] } },
            .closingHandles uvLoop.closingHandles⟩,
          [])
  | .updateTimeAgain =>
      some (⟨{ state.self with uvLoop := uvLoop }, .runTimers true⟩, [])
  | _ => none

/-- The next thing that the loop does by itself. -/
def proceed (state : Running) : Option (Running × List TimerOutput) :=
  match state.position with
  | .whileAlive =>
      if state.self.uvLoop.alive then
        some (⟨state.self, .updateTime⟩, [])
      else some (⟨state.self, .outside⟩, [.runReturned])
  | .runTimers last =>
      match state.self.uvLoop.nextTimer with
      | some (timer, uvLoop) =>
          some
            (⟨{ state.self with uvLoop := uvLoop },
                .inCallback timer last⟩,
              [.invoked timer uvLoop.time])
      | none =>
          some (⟨state.self, if last then .whileAlive else .polling⟩, [])
  | .closingHandles [] => some (⟨state.self, .updateTimeAgain⟩, [])
  | .closingHandles (handle :: rest) =>
      some
        (state.perform (UvEventLoop.finishClose handle)
          (.closingHandles rest) fun _ => [])
  | _ => none

end Running

/-- A program with an event loop.  Only timers that have been created can be
stopped, `Run` is not called from callbacks, and the clock never goes back. -/
def timerMachine : Machine Running TimerEvent TimerOutput where
  step state
    | .create options =>
        if state.userRuns then
          some
            (state.perform (UvEventLoop.createTimer options) state.position
              fun timer => [.created timer state.self.uvLoop.time])
        else none
    | .stop timer =>
        if state.userRuns && timer < state.self.created then
          some
            (state.perform (UvTimer.stop timer) state.position
              fun result => [.stopped result])
        else none
    | .run =>
        if state.position = .outside then
          some (⟨state.self, .whileAlive⟩, [])
        else none
    | .clock hrtime =>
        if state.self.uvLoop.time ≤ milliseconds hrtime then
          state.readClock hrtime
        else none
    | .returned =>
        match state.position with
        | .inCallback timer last =>
            some
              (state.perform (UvTimer.afterCallback timer)
                (.runTimers last) fun _ => [])
        | _ => none
    | .proceed => state.proceed

end DkPull.Event
