import DkPull.Libuv.HeapOperations
import DkPull.Libuv.PollTimeout
import DkPull.Reactive.Machine

/-!
# Timers in a linked heap

The functions of `timer.c` on a loop whose active timers lie in the heap of
`heap-inl.h`.  They answer every sequence of calls in the same way as the
functions on a loop that lists the members of its heap.  In particular they
never follow a null pointer.
-/

namespace DkPull.Libuv

open DkPull.Reactive

/-- A `uv_loop_t` with the heap of its timers in memory. -/
structure LinkedLoop where
  handles : Nat → Handle
  time : UInt64
  timerCounter : UInt64
  timerHeap : Heap Nat
  activeHandles : UInt32
  closingHandles : List Nat
  handleQueue : List Nat

namespace LinkedLoop

/-- More turns than the loops of `heap-inl.h` can take. -/
def turns : Nat := 32

/-- `uv_loop_init`.  The nodes have arbitrary values. -/
def init (nodes : Nat → HeapNode Nat) (hrtime : UInt64) : LinkedLoop where
  handles := fun _ => {}
  time := milliseconds hrtime
  timerCounter := 0
  timerHeap := Heap.heapInit { nodes := nodes, min := none, nelts := 0 }
  activeHandles := 0
  closingHandles := []
  handleQueue := []

def update
    (loop : LinkedLoop) (handle : Nat) (write : Handle → Handle) :
    LinkedLoop :=
  { loop with
    handles :=
      Function.update loop.handles handle (write (loop.handles handle)) }

def updateTime (loop : LinkedLoop) (hrtime : UInt64) : LinkedLoop :=
  { loop with time := milliseconds hrtime }

def lessThan (loop : LinkedLoop) (a b : Nat) : Bool :=
  Loop.timerLessThan (loop.handles a) (loop.handles b)

def timerInit (loop : LinkedLoop) (handle : Nat) : LinkedLoop :=
  { loop.update handle Handle.initialised with
    handleQueue := loop.handleQueue ++ [handle] }

def timerStop (loop : LinkedLoop) (handle : Nat) : Option LinkedLoop := do
  if (loop.handles handle).active then
    let timerHeap ← loop.timerHeap.heapRemove loop.lessThan turns handle
    some
      { loop.update handle fun timer => { timer with active := false } with
        timerHeap := timerHeap
        activeHandles := loop.activeHandles - 1 }
  else some loop

def timerStart
    (loop : LinkedLoop) (handle : Nat) (timeout repeatTime : UInt64) :
    Option (Int × LinkedLoop) := do
  if (loop.handles handle).isClosing then return (UV_EINVAL, loop)
  let loop ← loop.timerStop handle
  let loop :=
    { loop.update handle fun timer =>
        { timer with
          timerCb := true
          timeout := Loop.clampedTimeout loop.time timeout
          repeatTime := repeatTime
          startId := loop.timerCounter } with
      timerCounter := loop.timerCounter + 1 }
  let timerHeap ← loop.timerHeap.heapInsert loop.lessThan turns handle
  some
    (0,
      { loop.update handle fun timer => { timer with active := true } with
        timerHeap := timerHeap
        activeHandles := loop.activeHandles + 1 })

def timerAgain (loop : LinkedLoop) (handle : Nat) :
    Option (Int × LinkedLoop) := do
  let timer := loop.handles handle
  if !timer.timerCb then return (UV_EINVAL, loop)
  if timer.repeatTime != 0 then
    let loop ← loop.timerStop handle
    let (_, loop) ← loop.timerStart handle timer.repeatTime timer.repeatTime
    return (0, loop)
  return (0, loop)

/-- One turn of the loop in `uv__run_timers`, up to the call of the timer's
callback. -/
def nextTimer (loop : LinkedLoop) : Option (Option (Nat × LinkedLoop)) := do
  match loop.timerHeap.heapMin with
  | none => return none
  | some handle =>
      if (loop.handles handle).timeout > loop.time then return none
      let loop ← loop.timerStop handle
      let (_, loop) ← loop.timerAgain handle
      return some (handle, loop)

def close (loop : LinkedLoop) (handle : Nat) (closeCb : Bool) :
    Option (Except Assertion LinkedLoop) := do
  if (loop.handles handle).isClosing then
    return .error .handleIsClosing
  let loop :=
    loop.update handle fun timer =>
      { timer with closing := true, closeCb := closeCb }
  let loop ← loop.timerStop handle
  return .ok { loop with closingHandles := handle :: loop.closingHandles }

def finishClose (loop : LinkedLoop) (handle : Nat) :
    Except Assertion LinkedLoop :=
  if !(loop.handles handle).closing then .error .handleIsNotClosing
  else if (loop.handles handle).closed then .error .handleIsClosed
  else
    .ok
      { loop.update handle fun timer => { timer with closed := true } with
        handleQueue := loop.handleQueue.erase handle }

def alive (loop : LinkedLoop) : Bool :=
  loop.activeHandles > 0 || !loop.closingHandles.isEmpty

def timerSetRepeat
    (loop : LinkedLoop) (handle : Nat) (repeatTime : UInt64) : LinkedLoop :=
  loop.update handle fun timer => { timer with repeatTime := repeatTime }

def timerGetDueIn (loop : LinkedLoop) (handle : Nat) : UInt64 :=
  if loop.time ≥ (loop.handles handle).timeout then 0
  else (loop.handles handle).timeout - loop.time

def nextTimeout (loop : LinkedLoop) : Int :=
  match loop.timerHeap.heapMin with
  | none => -1
  | some handle =>
      if (loop.handles handle).timeout ≤ loop.time then 0
      else
        let diff := (loop.handles handle).timeout - loop.time
        let diff := if diff > INT_MAX then INT_MAX else diff
        diff.toNat

def backendTimeout (loop : LinkedLoop) : Int :=
  if loop.activeHandles = 0 then 0
  else if !loop.closingHandles.isEmpty then 0
  else loop.nextTimeout

/-- The loop with a list of the members of its heap, and with a counter of the
active handles that does not wrap. -/
def toLoop (loop : LinkedLoop) (members : List Nat) : Loop where
  handles := loop.handles
  time := loop.time
  timerCounter := loop.timerCounter
  timerHeap := members
  activeHandles := loop.activeHandles.toNat
  closingHandles := loop.closingHandles
  handleQueue := loop.handleQueue

end LinkedLoop

/-- A call of a function of libuv that reads or writes timers.  `takeClosing`
is the head of `uv__run_closing_handles`, which empties the list of the closing
handles. -/
inductive TimerCall where
  | timerInit (handle : Nat)
  | timerStart (handle : Nat) (timeout repeatTime : UInt64)
  | timerStop (handle : Nat)
  | timerAgain (handle : Nat)
  | timerSetRepeat (handle : Nat) (repeatTime : UInt64)
  | timerGetDueIn (handle : Nat)
  | close (handle : Nat) (closeCb : Bool)
  | takeClosing
  | finishClose (handle : Nat)
  | updateTime (hrtime : UInt64)
  | nextTimer
  | backendTimeout
  | alive
  deriving DecidableEq, Repr

/-- What a call returns, and which timer is taken from the heap next. -/
inductive TimerResult where
  | code (rc : Int)
  | time (ms : UInt64)
  | timeout (ms : Int)
  | next (handle : Option Nat)
  | alive (isAlive : Bool)
  | failed (assertion : Assertion)
  deriving DecidableEq, Repr

def TimerResult.taken : TimerResult → Option Nat
  | .next handle => handle
  | _ => none

/-- Whether the call may take a number from the counter of the loop. -/
def TimerCall.takesNumber : TimerCall → Bool
  | .timerStart _ _ _ | .timerAgain _ | .nextTimer => true
  | _ => false

def TimerCall.started : TimerCall → Option Nat
  | .timerStart handle _ _ => some handle
  | .timerAgain handle => some handle
  | _ => none

/-- Calls on a loop that lists the members of its heap.  A handle is only
initialised while it is not active. -/
def timerCalls : Machine Loop TimerCall TimerResult where
  step loop
    | .timerInit handle =>
        if (loop.handles handle).active then none
        else some (loop.timerInit handle, [.code 0])
    | .timerStart handle timeout repeatTime =>
        let (rc, next) := loop.timerStart handle timeout repeatTime
        some (next, [.code rc])
    | .timerStop handle => some (loop.timerStop handle, [.code 0])
    | .timerAgain handle =>
        let (rc, next) := loop.timerAgain handle
        some (next, [.code rc])
    | .timerSetRepeat handle repeatTime =>
        some (loop.timerSetRepeat handle repeatTime, [])
    | .timerGetDueIn handle =>
        some (loop, [.time (loop.timerGetDueIn handle)])
    | .close handle closeCb =>
        match loop.close handle closeCb with
        | .error assertion => some (loop, [.failed assertion])
        | .ok next => some (next, [])
    | .takeClosing => some ({ loop with closingHandles := [] }, [])
    | .finishClose handle =>
        match loop.finishClose handle with
        | .error assertion => some (loop, [.failed assertion])
        | .ok next => some (next, [])
    | .updateTime hrtime => some (loop.updateTime hrtime, [])
    | .nextTimer =>
        match loop.nextTimer with
        | none => some (loop, [.next none])
        | some (handle, next) => some (next, [.next (some handle)])
    | .backendTimeout => some (loop, [.timeout loop.backendTimeout])
    | .alive => some (loop, [.alive loop.alive])

def linkedTimerCalls : Machine LinkedLoop TimerCall TimerResult where
  step loop
    | .timerInit handle => some (loop.timerInit handle, [.code 0])
    | .timerStart handle timeout repeatTime => do
        let (rc, next) ← loop.timerStart handle timeout repeatTime
        return (next, [.code rc])
    | .timerStop handle => do return (← loop.timerStop handle, [.code 0])
    | .timerAgain handle => do
        let (rc, next) ← loop.timerAgain handle
        return (next, [.code rc])
    | .timerSetRepeat handle repeatTime =>
        some (loop.timerSetRepeat handle repeatTime, [])
    | .timerGetDueIn handle =>
        some (loop, [.time (loop.timerGetDueIn handle)])
    | .close handle closeCb => do
        match ← loop.close handle closeCb with
        | .error assertion => return (loop, [.failed assertion])
        | .ok next => return (next, [])
    | .takeClosing => some ({ loop with closingHandles := [] }, [])
    | .finishClose handle =>
        match loop.finishClose handle with
        | .error assertion => some (loop, [.failed assertion])
        | .ok next => some (next, [])
    | .updateTime hrtime => some (loop.updateTime hrtime, [])
    | .nextTimer => do
        match ← loop.nextTimer with
        | none => return (loop, [.next none])
        | some (handle, next) => return (next, [.next (some handle)])
    | .backendTimeout => some (loop, [.timeout loop.backendTimeout])
    | .alive => some (loop, [.alive loop.alive])

end DkPull.Libuv
