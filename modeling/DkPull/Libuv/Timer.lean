import Mathlib.Data.List.Nodup
import Mathlib.Logic.Function.Basic

/-!
# Timer handles of libuv

The part of libuv that a loop with nothing but timers uses: timer handles, the
heap of the active ones, and the way a handle is closed.  A handle is known by
its number.  All handles here keep their loop alive until they are closed.

The heap is kept as the list of its members, from which the least one is taken.
-/

namespace DkPull.Libuv

def UV_EINVAL : Int := -22

def UV_EBUSY : Int := -16

/-- A `uv_timer_t`.  The first three fields are the flags `UV_HANDLE_ACTIVE`,
`UV_HANDLE_CLOSING` and `UV_HANDLE_CLOSED`; the next two tell whether the
callbacks are set. -/
structure Handle where
  active : Bool := false
  closing : Bool := false
  closed : Bool := false
  timerCb : Bool := false
  closeCb : Bool := false
  timeout : UInt64 := 0
  repeatTime : UInt64 := 0
  startId : UInt64 := 0
  deriving DecidableEq, Repr

def Handle.isClosing (handle : Handle) : Bool :=
  handle.closing || handle.closed

/-- What `uv_timer_init` writes.  `timeout`, `start_id` and `close_cb` keep
whatever they were. -/
def Handle.initialised (handle : Handle) : Handle :=
  { handle with
    active := false
    closing := false
    closed := false
    timerCb := false
    repeatTime := 0 }

structure Loop where
  handles : Nat → Handle
  time : UInt64
  timerCounter : UInt64
  timerHeap : List Nat
  activeHandles : Nat
  closingHandles : List Nat
  handleQueue : List Nat

/-- The assertions about a handle that is closed. -/
inductive Assertion where
  | handleIsClosing
  | handleIsNotClosing
  | handleIsClosed
  deriving DecidableEq, Repr

/-- The clock reading `hrtime`, in nanoseconds, as a loop time. -/
def milliseconds (hrtime : UInt64) : UInt64 :=
  hrtime / 1000000

namespace Loop

def init (hrtime : UInt64) : Loop where
  handles := fun _ => {}
  time := milliseconds hrtime
  timerCounter := 0
  timerHeap := []
  activeHandles := 0
  closingHandles := []
  handleQueue := []

def update (loop : Loop) (handle : Nat) (write : Handle → Handle) : Loop :=
  { loop with
    handles :=
      Function.update loop.handles handle (write (loop.handles handle)) }

def updateTime (loop : Loop) (hrtime : UInt64) : Loop :=
  { loop with time := milliseconds hrtime }

def timerInit (loop : Loop) (handle : Nat) : Loop :=
  { loop.update handle Handle.initialised with
    handleQueue := loop.handleQueue ++ [handle] }

def timerStop (loop : Loop) (handle : Nat) : Loop :=
  if (loop.handles handle).active then
    { loop.update handle fun timer => { timer with active := false } with
      timerHeap := loop.timerHeap.erase handle
      activeHandles := loop.activeHandles - 1 }
  else loop

/-- The sum of a loop time and a timeout, unless it overflows. -/
def clampedTimeout (time timeout : UInt64) : UInt64 :=
  let clamped := time + timeout
  if clamped < timeout then -1 else clamped

/-- `uv_timer_start` with a callback. -/
def timerStart
    (loop : Loop) (handle : Nat) (timeout repeatTime : UInt64) :
    Int × Loop :=
  if (loop.handles handle).isClosing then (UV_EINVAL, loop)
  else
    let loop := loop.timerStop handle
    (0,
      { loop.update handle fun timer =>
          { timer with
            active := true
            timerCb := true
            timeout := clampedTimeout loop.time timeout
            repeatTime := repeatTime
            startId := loop.timerCounter } with
        timerCounter := loop.timerCounter + 1
        timerHeap := handle :: loop.timerHeap
        activeHandles := loop.activeHandles + 1 })

def timerAgain (loop : Loop) (handle : Nat) : Int × Loop :=
  let timer := loop.handles handle
  if !timer.timerCb then (UV_EINVAL, loop)
  else if timer.repeatTime != 0 then
    (0,
      ((loop.timerStop handle).timerStart handle timer.repeatTime
        timer.repeatTime).2)
  else (0, loop)

def timerLessThan (a b : Handle) : Bool :=
  if a.timeout < b.timeout then true
  else if b.timeout < a.timeout then false
  else a.startId < b.startId

def heapMin (handles : Nat → Handle) : List Nat → Option Nat
  | [] => none
  | handle :: rest =>
      match heapMin handles rest with
      | none => some handle
      | some least =>
          if timerLessThan (handles handle) (handles least) then some handle
          else some least

/-- One turn of the loop in `uv__run_timers`, up to the call of the timer's
callback. -/
def nextTimer (loop : Loop) : Option (Nat × Loop) :=
  match heapMin loop.handles loop.timerHeap with
  | none => none
  | some handle =>
      if (loop.handles handle).timeout > loop.time then none
      else some (handle, ((loop.timerStop handle).timerAgain handle).2)

/-- `uv_close` of a timer. -/
def close (loop : Loop) (handle : Nat) (closeCb : Bool) :
    Except Assertion Loop :=
  if (loop.handles handle).isClosing then .error .handleIsClosing
  else
    let loop :=
      loop.update handle fun timer =>
        { timer with closing := true, closeCb := closeCb }
    let loop := loop.timerStop handle
    .ok { loop with closingHandles := handle :: loop.closingHandles }

/-- `uv__finish_close` of a timer, up to the call of its callback. -/
def finishClose (loop : Loop) (handle : Nat) : Except Assertion Loop :=
  if !(loop.handles handle).closing then .error .handleIsNotClosing
  else if (loop.handles handle).closed then .error .handleIsClosed
  else
    .ok
      { loop.update handle fun timer => { timer with closed := true } with
        handleQueue := loop.handleQueue.erase handle }

/-- `uv__loop_alive` of a loop without requests. -/
def alive (loop : Loop) : Bool :=
  loop.activeHandles > 0 || !loop.closingHandles.isEmpty

/-- `uv_loop_close` of a loop without requests. -/
def loopClose (loop : Loop) : Int :=
  if loop.handleQueue.isEmpty then 0 else UV_EBUSY

end Loop

end DkPull.Libuv
