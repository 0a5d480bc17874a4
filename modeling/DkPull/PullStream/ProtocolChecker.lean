import DkPull.Reactive.Machine
import DkPull.Reactive.Throwing
import DkPull.Types.EndOrError
import Mathlib.Logic.Function.Basic

/-!
# The protocol checker

`ProtocolChecker` sits between a consumer and a source.  The consumer's
requests pass through the lambda returned by `Through`, the source's answers
pass through the wrapped callbacks that this lambda hands out, and both report
violations through `notifyError`.

Each of the two lambdas calls out (to the source, to the consumer's callback)
in its last statement.  Nothing of the checker runs after such a call returns,
so a session is fully described by the order in which its requests and its
answers begin, however they are nested in each other.  An event of the machine
below is the beginning of one request or of one answer, and a call that leaves
the checker is an output.
-/

namespace DkPull.PullStream

open DkPull.Types
open DkPull.Reactive

/-- The texts that `notifyError` is called with. -/
inductive Message where
  | valueRequestedAfterTermination
  | neverInvoked (k : UInt64)
  | invokedTimes (i counter : UInt64)
  | invokedAfter (i latest : UInt64)
  | invokedBefore (i expected : UInt64)
  | returnedValueAfterTermination (i : UInt64)
  | requestAfterAborted
  | requestAfterTerminated
  | neverTerminated
  deriving DecidableEq, Repr

def Message.text : Message → String
  | valueRequestedAfterTermination =>
      "Invariant 1 violated: value requested after termination"
  | neverInvoked k =>
      "Invariant 2 violated: callback " ++ toString k.toNat ++
        " was never invoked"
  | invokedTimes i counter =>
      "Invariant 3 violated: callback " ++ toString i.toNat ++
        " invoked " ++ toString counter.toNat ++ " times"
  | invokedAfter i latest =>
      "Invariant 4 violated: callback " ++ toString i.toNat ++
        " invoked after callback " ++ toString latest.toNat
  | invokedBefore i expected =>
      "Invariant 4 violated: callback " ++ toString i.toNat ++
        " invoked before callback " ++ toString expected.toNat
  | returnedValueAfterTermination i =>
      "Invariant 5 violated: callback " ++ toString i.toNat ++
        " returned a value after termination"
  | requestAfterAborted =>
      "Invariant 6 violated: request made after the stream was aborted"
  | requestAfterTerminated =>
      "Invariant 6 violated: request made after the stream has terminated"
  | neverTerminated =>
      "Invariant 7 violated: stream was never terminated"

structure Options where
  forbidExtraRequests : Bool := false
  enforceStreamTermination : Bool := false
  notifyEagerly : Bool := true
  deriving DecidableEq, Repr

/-- The fields of a `ProtocolChecker`.  An entry of `errors` is the string
`Message.text` of the message recorded there. -/
structure ProtocolChecker where
  forbidExtraRequests : Bool := false
  enforceStreamTermination : Bool := false
  notifyEagerly : Bool := true
  i : UInt64 := 1
  latest : UInt64 := 0
  skipped : UInt64 → Option Bool := fun _ => none
  aborted : Abort := EndOrError.FALSE
  done : Done := EndOrError.FALSE
  errors : List Message := []

def ProtocolChecker.create (options : Options) : ProtocolChecker where
  forbidExtraRequests := options.forbidExtraRequests
  enforceStreamTermination := options.enforceStreamTermination
  notifyEagerly := options.notifyEagerly

/-- What the wrapped callback of one request captures: its index and its
invocation counter.  The consumer's callback is known by the request's
position. -/
structure WrappedCallback where
  i : UInt64
  counter : UInt64
  deriving DecidableEq, Repr

/-- The checker together with the callbacks it has handed to the source, in
order of request.  A request without a consumer callback handed out `noop`,
recorded as `none`. -/
structure Probe where
  self : ProtocolChecker
  callbacks : List (Option WrappedCallback)

def Probe.create (options : Options) : Probe where
  self := ProtocolChecker.create options
  callbacks := []

/-- Checker code: it may throw a message that is meant for a
`std::logic_error`. -/
abbrev CheckerM := Throwing Message Probe

namespace ProtocolChecker

def assign (update : ProtocolChecker → ProtocolChecker) : CheckerM Unit :=
  modify fun probe => { probe with self := update probe.self }

def notifyError (err : Message) : CheckerM Unit := do
  if (← get).self.notifyEagerly then
    throw err
  assign fun self => { self with errors := self.errors ++ [err] }

/-- Invariants 1 and 6, checked when a request enters the lambda returned by
`Through()(source)`. -/
def checkRequest (abort : Abort) : CheckerM Unit := do
  let self := (← get).self
  if self.aborted.toBool || self.done.toBool then
    if !abort.toBool then
      notifyError .valueRequestedAfterTermination
    if self.forbidExtraRequests then
      if self.aborted.toBool then
        notifyError .requestAfterAborted
      if self.done.toBool then
        notifyError .requestAfterTerminated

/-- The lambda returned by `Through()(source)`, up to its call of `source`.
`isNull` is `cb == nullptr`; the result is the abort passed to the source. -/
def request (abort : Abort) (isNull : Bool) : CheckerM Abort := do
  checkRequest abort
  if !(← get).self.aborted.toBool then
    assign fun self => { self with aborted := abort }
  let i := (← get).self.i
  assign fun self => { self with i := self.i + 1 }
  if isNull then
    assign fun self =>
      { self with skipped := Function.update self.skipped i (some true) }
    modify fun probe =>
      { probe with callbacks := probe.callbacks ++ [none] }
    return (← get).self.aborted
  else
    let counter := 0
    modify fun probe =>
      { probe with callbacks := probe.callbacks ++ [some ⟨i, counter⟩] }
    return abort

/-- Invariant 5, checked when the source answers. -/
def checkValue (i : UInt64) (done : Done) : CheckerM Unit := do
  let self := (← get).self
  if !done.toBool && (self.aborted.toBool || self.done.toBool) then
    notifyError (.returnedValueAfterTermination i)

/-- `(*counter)++` and Invariant 3. -/
def countInvocation
    (position : Nat) (callback : WrappedCallback) : CheckerM Unit := do
  let counter := callback.counter + 1
  modify fun probe =>
    { probe with
      callbacks :=
        probe.callbacks.set position (some { callback with counter }) }
  if counter > 1 then
    notifyError (.invokedTimes callback.i counter)

/-- Invariant 4, and `latest` moves on when the order is respected. -/
def checkOrder (i : UInt64) : CheckerM Unit := do
  let self := (← get).self
  if i < self.latest then
    notifyError (.invokedAfter i self.latest)
  else if i > self.latest + 1 then
    notifyError (.invokedBefore i (self.latest + 1))
  else
    assign fun self => { self with latest := i }

/-- The wrapped callback at `position`, up to its call of `cb`.  The result is
the flag passed to `cb`. -/
def wrappedCallback
    (position : Nat) (callback : WrappedCallback) (done : Done) :
    CheckerM Done := do
  checkValue callback.i done
  countInvocation position callback
  checkOrder callback.i
  if !(← get).self.done.toBool then
    assign fun self => { self with done := done }
  return (← get).self.done

/-- The indices visited by the loop of `Terminate`: from `latest + 1` up to
but excluding `i`. -/
def loopIndices (latest i : UInt64) : List UInt64 :=
  (List.range (i - (latest + 1)).toNat).map fun offset =>
    latest + 1 + UInt64.ofNat offset

/-- The loop of `Terminate` over the indices still to be visited. -/
def terminateLoop : List UInt64 → CheckerM Unit
  | [] => pure ()
  | k :: rest => do
      let skipped := (← get).self.skipped
      if skipped k = none || skipped k = some true then
        notifyError (.neverInvoked k)
      terminateLoop rest

/-- Invariant 2, checked by `Terminate`. -/
def checkNeverInvoked : CheckerM Unit := do
  let self := (← get).self
  if self.i > self.latest + 1 then
    terminateLoop (loopIndices self.latest self.i)

/-- Invariant 7, checked by `Terminate`. -/
def checkTermination : CheckerM Unit := do
  let self := (← get).self
  if self.enforceStreamTermination && !self.done.toBool &&
      !self.aborted.toBool then
    notifyError .neverTerminated

def terminate : CheckerM (List Message) := do
  checkNeverInvoked
  checkTermination
  return (← get).self.errors

end ProtocolChecker

/-- What the two sides of the pipeline do: the consumer makes a request, with
or without a callback, or the source invokes the callback it was handed for
the request at `position` (counted from zero). -/
inductive SessionEvent (T : Type) where
  | request (abort : Abort) (isNull : Bool)
  | answer (position : Nat) (done : Done) (value : T)
  deriving DecidableEq, Repr

/-- What leaves the checker: a call of the source, a call of the consumer's
callback for the request at `position`, or an exception. -/
inductive SessionOutput (T : Type) where
  | toSource (abort : Abort)
  | toConsumer (position : Nat) (done : Done) (value : T)
  | thrown (err : Message)
  deriving DecidableEq, Repr

variable {T : Type}

/-- Run checker code and turn its result or its exception into outputs. -/
def CheckerM.emit {α : Type}
    (code : CheckerM α) (outputs : α → List (SessionOutput T))
    (probe : Probe) : Probe × List (SessionOutput T) :=
  match code probe with
  | (.ok result, next) => (next, outputs result)
  | (.error err, next) => (next, [.thrown err])

/-- One event of a session.  Only callbacks that have been handed out can be
invoked, and `noop` does nothing. -/
def sessionMachine : Machine Probe (SessionEvent T) (SessionOutput T) where
  step probe
    | .request abort isNull =>
        some <|
          (ProtocolChecker.request abort isNull).emit
            (fun passed => [.toSource passed]) probe
    | .answer position done value =>
        match probe.callbacks[position]? with
        | none => none
        | some none => some (probe, [])
        | some (some callback) =>
            some <|
              (ProtocolChecker.wrappedCallback position callback done).emit
                (fun passed => [.toConsumer position passed value]) probe

end DkPull.PullStream
